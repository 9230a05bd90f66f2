import Hexeract.OutboxSqlStore

/-! # Outbox workers that issue SQL

The same workers, publishers and crashes as over the keyed tables, but every operation is
the text the store sends and the database executes it. A run of this machine is a run of
the one over keyed tables: what is proved about the statements holds of the texts, in
each of the three dialects and whatever the tables are called. -/
namespace OutboxSqlWorkers

open LibraryTables LibraryMachines LibrarySql SqlDialect OutboxSqlExecution OutboxSqlStore
open OutboxStatements hiding Row
open OutboxWorkers (Config Obtained System envelopeOf bindableClaims InsertsOnce)
open OutboxPolling (i64Max pollEnvelopes)

structure Deployment (ω κ τ β δ : Type) where
  dialect : Dialect
  store : Store
  config : ω → Config
  decodes : Content κ τ β → Bool
  leaseFor : ω → ℕ → δ
  later : τ → δ → τ

/-- The batch sizes are bound as 64-bit integers, and the alias in PostgreSQL's claim does
not hide the outbox table. -/
structure Deployment.Usable {ω κ τ β δ : Type} (dep : Deployment ω κ τ β δ) : Prop where
  small : ∀ w, (dep.config w).batchSize ≤ i64Max
  apart : dep.dialect = .postgres → dep.store.table ≠ "claimed"

/-- A worker keeps the envelopes it decoded, not the rows. -/
inductive Worker (κ : Type) where
  | claiming (batch : List (Envelope κ))
  | settling (batch : List (Envelope κ))

def Worker.polled {κ : Type} : Worker κ → List (Envelope κ)
  | .claiming batch => batch
  | .settling _ => []

def Worker.held {κ : Type} : Worker κ → List (Envelope κ)
  | .claiming _ => []
  | .settling batch => batch

/-- `inserted` and `obtained` are histories, as over the keyed tables. -/
structure State (ω κ τ β : Type) where
  now : τ
  db : Database κ τ β
  workers : ω → Worker κ
  inserted : List κ
  obtained : List (Obtained ω κ)

inductive Event (ω κ τ β δ : Type) where
  | tick (later : τ)
  | publish (eventId : κ) (eventType : String) (subjectId : Option κ) (payload : Except String β)
  | enqueue (eventId : κ) (eventType : String) (payload : Except String β)
  | poll (w : ω) (locked : List κ)
  | claim (w : ω)
  | settle (w : ω) (outcome : Except String Unit) (retryIn : δ)
  | rollback (w : ω)
  | crash (w : ω)

variable {ω κ τ β δ : Type} [DecidableEq ω] [DecidableEq κ] [LinearOrder τ]
  (dep : Deployment ω κ τ β δ)

def Deployment.engine (now : τ) (locked : List κ) : Engine κ τ δ :=
  ⟨dep.dialect, now, dep.later now, locked⟩

def State.setWorker (s : State ω κ τ β) (w : ω) (worker : Worker κ) : State ω κ τ β :=
  { s with workers := Function.update s.workers w worker }

def publishStep (s : State ω κ τ β) (eventId : κ) (eventType : String) (subjectId : Option κ)
    (payload : Except String β) : State ω κ τ β :=
  match publishInTx (dep.engine s.now []) dep.store.table s.db eventId eventType subjectId
    payload with
  | .error _ => s
  | .ok (db, _) => { s with db := db, inserted := eventId :: s.inserted }

def enqueueStep (s : State ω κ τ β) (eventId : κ) (eventType : String)
    (payload : Except String β) : State ω κ τ β :=
  match enqueueIdempotent (dep.engine s.now []) dep.store.table s.db eventId eventType payload with
  | .error _ => s
  | .ok (db, true) => { s with db := db, inserted := eventId :: s.inserted }
  | .ok (db, false) => { s with db := db }

def State.receive (s : State ω κ τ β) (w : ω) :
    Except OutboxError (List (Envelope κ)) → State ω κ τ β
  | .error _ => s
  | .ok batch => s.setWorker w (.claiming batch)

def pollStep (s : State ω κ τ β) (w : ω) (locked : List κ) : State ω κ τ β :=
  s.receive w (dep.store.poll (dep.engine s.now locked) dep.decodes s.db (dep.config w).batchSize
    (dep.config w).maxAttempts)

/-- The worker goes on with the envelopes of the batch whose ids the claim returned. -/
def claimStep (s : State ω κ τ β) (w : ω) : State ω κ τ β :=
  let batch := (s.workers w).polled
  match dep.store.claim (dep.engine s.now []) s.db batch (dep.leaseFor w batch.length) with
  | .error _ => s.setWorker w (.settling [])
  | .ok (db, obtained) =>
    let won := batch.filter fun e => obtained.contains e.eventId
    { s.setWorker w (.settling won) with
      db := db
      obtained := s.obtained ++ won.map fun e => ⟨w, e.eventId, e.claimedAttempt⟩ }

def settleStep (s : State ω κ τ β) (w : ω) (outcome : Except String Unit) (retryIn : δ) :
    State ω κ τ β :=
  match (s.workers w).held with
  | [] => s
  | e :: rest =>
    match dep.store.dispatchAndSettle (dep.engine s.now []) (dep.config w).maxAttempts s.db e
      outcome retryIn with
    | .error _ => s.setWorker w (.settling rest)
    | .ok (db, _) => { s.setWorker w (.settling rest) with db := db }

def Enabled (s : State ω κ τ β) : Event ω κ τ β δ → Prop
  | .poll w _ => (s.workers w).polled = [] ∧ (s.workers w).held = []
  | .claim w => (s.workers w).polled ≠ []
  | .settle w _ _ => (s.workers w).held ≠ []
  | .rollback w => (s.workers w).held ≠ []
  | _ => True

def next (s : State ω κ τ β) : Event ω κ τ β δ → State ω κ τ β
  | .tick later => { s with now := later }
  | .publish eventId eventType subjectId payload =>
    publishStep dep s eventId eventType subjectId payload
  | .enqueue eventId eventType payload => enqueueStep dep s eventId eventType payload
  | .poll w locked => pollStep dep s w locked
  | .claim w => claimStep dep s w
  | .settle w outcome retryIn => settleStep dep s w outcome retryIn
  | .rollback w => s.setWorker w (.settling (s.workers w).held.tail)
  | .crash w => s.setWorker w (.settling [])

def machine : Machine (State ω κ τ β) (Event ω κ τ β δ) := ⟨Enabled, next dep⟩

/-- An event id that was ever inserted comes again only while its row is there. A second
insertion is then refused; without it, it would start the counter anew. -/
def Fresh (s : State ω κ τ β) : Event ω κ τ β δ → Prop
  | .publish eventId .. | .enqueue eventId .. => eventId ∈ s.inserted →
      ((s.db dep.store.table).any fun r => isTaken r.rows "event_id" (.key eventId)) = true
  | _ => True

/-! ## The machine over keyed tables -/

/-- The system the deployment implements. -/
def Deployment.system : System ω (Content κ τ β) :=
  ⟨dep.dialect, dep.store.deadLetter.isSome, dep.config, dep.decodes⟩

inductive ShowsWorker : Worker κ → OutboxWorkers.Worker κ τ (Content κ τ β) → Prop where
  | claiming (rows : List (κ × OutboxStatements.Row τ (Content κ τ β))) :
      ShowsWorker (.claiming (rows.map envelopeOf)) (.claiming rows)
  | settling (batch : List (Envelope κ)) : ShowsWorker (.settling batch) (.settling batch)

structure Shows (st : Store) (s : State ω κ τ β)
    (t : OutboxWorkers.State ω κ τ (Content κ τ β)) : Prop where
  now : s.now = t.now
  db : Stores st s.db t.inserted.length t.tables
  workers : ∀ w, ShowsWorker (s.workers w) (t.workers w)
  inserted : s.inserted = t.inserted
  obtained : s.obtained = t.obtained

section Related

variable {dep} {st : Store} {s : State ω κ τ β} {t : OutboxWorkers.State ω κ τ (Content κ τ β)}

omit [DecidableEq κ] [LinearOrder τ] in
theorem ShowsWorker.polled {worker : Worker κ}
    {worker' : OutboxWorkers.Worker κ τ (Content κ τ β)} (h : ShowsWorker worker worker') :
    worker.polled = worker'.polled.map envelopeOf := by
  cases h <;> rfl

omit [DecidableEq κ] [LinearOrder τ] in
theorem ShowsWorker.held {worker : Worker κ}
    {worker' : OutboxWorkers.Worker κ τ (Content κ τ β)} (h : ShowsWorker worker worker') :
    worker.held = worker'.held := by
  cases h <;> rfl

omit [DecidableEq κ] [LinearOrder τ] in
theorem Shows.setWorker (h : Shows st s t) (w : ω) {worker : Worker κ}
    {worker' : OutboxWorkers.Worker κ τ (Content κ τ β)} (own : ShowsWorker worker worker') :
    Shows st (s.setWorker w worker) (t.setWorker w worker') where
  now := h.now
  db := h.db
  workers := by
    intro v
    by_cases same : v = w
    · subst same
      simpa [State.setWorker, OutboxWorkers.State.setWorker] using own
    · simpa [State.setWorker, OutboxWorkers.State.setWorker, same] using h.workers v
  inserted := h.inserted
  obtained := h.obtained

omit [DecidableEq ω] [DecidableEq κ] [LinearOrder τ] in
theorem Shows.commit (h : Shows st s t) {db : Database κ τ β}
    {tables : Tables κ τ (Content κ τ β)} (stores : Stores st db t.inserted.length tables) :
    Shows st { s with db := db } { t with tables := tables } :=
  ⟨h.now, stores, h.workers, h.inserted, h.obtained⟩

omit [DecidableEq ω] [DecidableEq κ] [LinearOrder τ] in
theorem Shows.obtain (h : Shows st s t) (more : List (Obtained ω κ)) :
    Shows st { s with obtained := s.obtained ++ more } { t with obtained := t.obtained ++ more } :=
  ⟨h.now, h.db, h.workers, h.inserted, congrArg (· ++ more) h.obtained⟩

theorem Shows.insert (h : Shows st s t) {eventId : κ} {content : Content κ τ β}
    {main : Outbox κ τ β}
    (added : t.tables.main.insert eventId (.fresh t.inserted.length content) = some main)
    (sys : System ω (Content κ τ β)) :
    Shows st
      { s with
        db := s.db.set st.table (relation (t.inserted.length + 1) main)
        inserted := eventId :: s.inserted }
      (OutboxWorkers.next sys t (.insert eventId content)) where
  now := h.now
  db := by
    have stored := h.db.set_main (t.inserted.length + 1) main
    simpa [OutboxWorkers.next, added] using stored
  workers := h.workers
  inserted := congrArg (eventId :: ·) h.inserted
  obtained := h.obtained

/-! ## Simulation -/

/-- The events over the keyed tables that an event of the texts amounts to. -/
structure Matched (dep : Deployment ω κ τ β δ) (s : State ω κ τ β) (e : Event ω κ τ β δ)
    (t : OutboxWorkers.State ω κ τ (Content κ τ β))
    (image : List (OutboxWorkers.Event ω κ τ (Content κ τ β))) : Prop where
  allowed : (OutboxWorkers.machine dep.system).Allowed t image
  once : Fresh dep s e →
    ((OutboxWorkers.machine dep.system).under InsertsOnce).Allowed t image
  reached : Shows dep.store (next dep s e) ((OutboxWorkers.machine dep.system).run t image)

theorem matched_nothing (h : Shows dep.store s t) {e : Event ω κ τ β δ} (idle : next dep s e = s) :
    Matched dep s e t [] := by
  refine ⟨trivial, fun _ => trivial, ?_⟩
  rw [idle]
  exact h

theorem matched_event {e : Event ω κ τ β δ} {image : OutboxWorkers.Event ω κ τ (Content κ τ β)}
    (enabled : OutboxWorkers.Enabled t image) (once : Fresh dep s e → InsertsOnce t image)
    (reached : Shows dep.store (next dep s e) (OutboxWorkers.next dep.system t image)) :
    Matched dep s e t [image] :=
  ⟨⟨enabled, trivial⟩, fun fresh => ⟨⟨enabled, once fresh⟩, trivial⟩, reached⟩

omit [DecidableEq ω] in
/-- An insertion that went through found the id free, so that a fresh id is a new one. -/
theorem insertsOnce_of_fresh (h : Shows dep.store s t) {eventId : κ} {content : Content κ τ β}
    {main : Outbox κ τ β}
    (added : t.tables.main.insert eventId (.fresh t.inserted.length content) = some main)
    (fresh : eventId ∈ s.inserted → ((s.db dep.store.table).any fun r =>
      isTaken r.rows "event_id" (.key eventId)) = true) : eventId ∉ t.inserted := by
  intro known
  rw [← h.inserted] at known
  have taken := fresh known
  rw [h.db.main, Option.any_some, relation, isTaken_eventId, decide_eq_true_eq] at taken
  rw [Table.insert, dif_pos taken] at added
  cases added

theorem matched_insertion (h : Shows dep.store s t) {e : Event ω κ τ β δ} {eventId : κ}
    (fresh : Fresh dep s e → eventId ∈ s.inserted → ((s.db dep.store.table).any fun r =>
      isTaken r.rows "event_id" (.key eventId)) = true)
    (shape : next dep s e = s ∨ ∃ content main,
      t.tables.main.insert eventId (.fresh t.inserted.length content) = some main ∧
        next dep s e =
          { s with
            db := s.db.set dep.store.table (relation (t.inserted.length + 1) main)
            inserted := eventId :: s.inserted }) :
    ∃ image, Matched dep s e t image := by
  rcases shape with idle | ⟨content, main, added, shape⟩
  · exact ⟨[], matched_nothing h idle⟩
  · refine ⟨[.insert eventId content], matched_event trivial ?_ ?_⟩
    · exact fun held => insertsOnce_of_fresh h added (fresh held)
    · rw [shape]
      exact h.insert added dep.system

omit [DecidableEq ω] in
theorem publishStep_ok {eventId id : κ} {eventType : String} {subjectId : Option κ}
    {payload : Except String β} {db : Database κ τ β}
    (ran : publishInTx (dep.engine s.now []) dep.store.table s.db eventId eventType subjectId
      payload = .ok (db, id)) :
    publishStep dep s eventId eventType subjectId payload =
      { s with db := db, inserted := eventId :: s.inserted } := by
  rw [publishStep, ran]

theorem matched_publish (h : Shows dep.store s t) (eventId : κ) (eventType : String)
    (subjectId : Option κ) (payload : Except String β) :
    ∃ image, Matched dep s (.publish eventId eventType subjectId payload) t image := by
  refine matched_insertion h id ?_
  rcases publishInTx_cases h.db (dep.engine s.now []) eventId eventType subjectId payload with
    ⟨error, failed⟩ | ⟨document, main, added, ran⟩
  · refine Or.inl ?_
    simp only [next, publishStep, failed]
  · exact Or.inr ⟨_, main, added, publishStep_ok ran⟩

theorem matched_enqueue (h : Shows dep.store s t) (eventId : κ) (eventType : String)
    (payload : Except String β) :
    ∃ image, Matched dep s (.enqueue eventId eventType payload) t image := by
  refine matched_insertion h id ?_
  rcases enqueueIdempotent_cases h.db (dep.engine s.now []) eventId eventType payload with
    ⟨error, failed⟩ | known | ⟨document, main, added, ran⟩
  · refine Or.inl ?_
    simp only [next, enqueueStep, failed]
  · refine Or.inl ?_
    simp only [next, enqueueStep, known]
  · refine Or.inr ⟨_, main, added, ?_⟩
    simp only [next, enqueueStep, ran]

theorem pollStep_eq {serial : ℕ} {tables : Tables κ τ (Content κ τ β)}
    (stores : Stores dep.store s.db serial tables) (w : ω) (locked : List κ) :
    pollStep dep s w locked =
      s.setWorker w (.claiming (pollEnvelopes dep.dialect (fun row => dep.decodes row.2.content)
        s.now tables.main (skipped (dep.engine s.now locked)) (dep.config w).batchSize
        (dep.config w).maxAttempts)) := by
  rw [pollStep, poll_returns stores]
  rfl

theorem matched_poll (h : Shows dep.store s t) {w : ω} (locked : List κ)
    (small : (dep.config w).batchSize ≤ i64Max)
    (idle : (s.workers w).polled = [] ∧ (s.workers w).held = []) :
    ∃ image, Matched dep s (.poll w locked) t image := by
  refine ⟨[.poll w (skipped (dep.engine s.now locked))], matched_event ?_ (fun _ => trivial) ?_⟩
  · have polled := (h.workers w).polled
    rw [idle.1] at polled
    exact ⟨List.map_eq_nil_iff.mp polled.symm, (h.workers w).held.symm.trans idle.2⟩
  · rw [next, pollStep_eq h.db, pollEnvelopes, min_eq_left small, OutboxWorkers.next,
      OutboxWorkers.pollStep, ← h.now]
    exact h.setWorker w (.claiming _)

theorem matched_claim (h : Shows dep.store s t)
    (apart : dep.dialect = .postgres → dep.store.table ≠ "claimed") {w : ω}
    (pending : (s.workers w).polled ≠ []) :
    ∃ image, Matched dep s (.claim w) t image := by
  have polled := (h.workers w).polled
  refine ⟨[.claim w (dep.later s.now (dep.leaseFor w (s.workers w).polled.length))],
    matched_event ?_ (fun _ => trivial) ?_⟩
  · rw [polled] at pending
    exact fun none => pending (congrArg (List.map envelopeOf) none)
  · have agrees := claim_agrees h.db (dep.engine s.now []) apart (s.workers w).polled
      (dep.leaseFor w (s.workers w).polled.length)
    simp only [next, claimStep, OutboxWorkers.next, OutboxWorkers.claimStep, OutboxWorkers.won]
    rw [← polled]
    cases bound : bindableClaims (s.workers w).polled with
    | error error =>
      rw [bound] at agrees
      rw [agrees.eq_error]
      exact h.setWorker w (.settling [])
    | ok claims =>
      rw [bound] at agrees
      obtain ⟨db, ran, stores⟩ := agrees.eq_ok
      rw [ran]
      exact ((h.setWorker w (.settling _)).commit stores).obtain _

/-- A settlement fails as a whole on both sides, or commits the same. -/
theorem Shows.settleStep (h : Shows dep.store s t) (w : ω) (outcome : Except String Unit)
    (retryIn : δ) :
    Shows dep.store (settleStep dep s w outcome retryIn)
      (OutboxWorkers.settleStep dep.system t w outcome (dep.later s.now retryIn)) := by
  have held := (h.workers w).held
  cases front : (s.workers w).held with
  | nil =>
    simp only [OutboxSqlWorkers.settleStep, OutboxWorkers.settleStep, ← held, front]
    exact h
  | cons e rest =>
    have agrees : Agrees dep.store _ _ (dispatchAndSettle dep.system.deadLettering
        (dep.system.config w).maxAttempts s.now (dep.later s.now retryIn) t.tables e outcome) :=
      dispatchAndSettle_agrees h.db (dep.engine s.now []) (dep.config w).maxAttempts e outcome
        retryIn
    have settling := h.setWorker w (.settling rest)
    simp only [OutboxSqlWorkers.settleStep, OutboxWorkers.settleStep, ← held, front, ← h.now]
    cases settled : dispatchAndSettle dep.system.deadLettering (dep.system.config w).maxAttempts
        s.now (dep.later s.now retryIn) t.tables e outcome with
    | error error =>
      rw [settled] at agrees
      rw [agrees.eq_error]
      exact settling
    | ok result =>
      rw [settled] at agrees
      obtain ⟨db, ran, stores⟩ := agrees.eq_ok
      rw [ran]
      exact settling.commit stores

theorem matched_step (usable : dep.Usable) (h : Shows dep.store s t)
    {e : Event ω κ τ β δ} (enabled : Enabled s e) : ∃ image, Matched dep s e t image := by
  cases e with
  | tick later =>
    refine ⟨[.tick later], matched_event trivial (fun _ => trivial) ?_⟩
    exact ⟨rfl, h.db, h.workers, h.inserted, h.obtained⟩
  | publish eventId eventType subjectId payload =>
    exact matched_publish h eventId eventType subjectId payload
  | enqueue eventId eventType payload => exact matched_enqueue h eventId eventType payload
  | poll w locked => exact matched_poll h locked (usable.small w) enabled
  | claim w => exact matched_claim h usable.apart enabled
  | settle w outcome retryIn =>
    refine ⟨[.settle w outcome (dep.later s.now retryIn)], matched_event ?_ (fun _ => trivial)
      (h.settleStep w outcome retryIn)⟩
    exact fun none => enabled ((h.workers w).held.trans none)
  | rollback w =>
    refine ⟨[.rollback w], matched_event ?_ (fun _ => trivial) ?_⟩
    · exact fun none => enabled ((h.workers w).held.trans none)
    · rw [next, OutboxWorkers.next, (h.workers w).held]
      exact h.setWorker w (.settling _)
  | crash w =>
    exact ⟨[.crash w], matched_event trivial (fun _ => trivial) (h.setWorker w (.settling []))⟩

/-- The same for the runs in which no id is inserted twice. -/
theorem fresh_texts_refine (usable : dep.Usable)
    (start : Shows dep.store s t) {events : List (Event ω κ τ β δ)}
    (allowed : ((machine dep).under (Fresh dep)).Allowed s events) :
    ∃ image, ((OutboxWorkers.machine dep.system).under InsertsOnce).Allowed t image ∧
      Shows dep.store ((machine dep).run s events)
        ((OutboxWorkers.machine dep.system).run t image) := by
  refine @simulated_of_steps _ _ ((machine dep).under (Fresh dep)) _ _
    ((OutboxWorkers.machine dep.system).under InsertsOnce) (Shows dep.store) ?_ s t events start
    allowed
  intro s t e related enabled
  obtain ⟨image, matched⟩ := matched_step usable related enabled.1
  exact ⟨image, matched.once enabled.2, matched.reached⟩

end Related

/-! ## What a client of the database sees -/

def hasKey (k : κ) (row : LibrarySql.Row κ τ β) : Bool :=
  match row.lookup "event_id" with
  | some (.key j) => decide (j = k)
  | _ => false

def storedRow (db : Database κ τ β) (table : String) (k : κ) : Option (LibrarySql.Row κ τ β) :=
  (db table).bind fun r => r.rows.find? (hasKey k)

/-- What the fences give in one state, for any settlement a worker may issue there. -/
structure Fencing (s : State ω κ τ β) : Prop where
  once : (s.obtained.map Obtained.number).Nodup
  latest : ∀ w e rest outcome retryIn db a, (s.workers w).held = e :: rest →
    dep.store.dispatchAndSettle (dep.engine s.now []) (dep.config w).maxAttempts s.db e outcome
      retryIn = .ok (db, a) →
    (a ≠ .nothing ∨
      ∃ k, storedRow db dep.store.table k ≠ storedRow s.db dep.store.table k) →
      Obtained.mk w e.eventId e.claimedAttempt ∈ s.obtained ∧
        ∀ o ∈ s.obtained, o.eventId = e.eventId → o.attempt ≤ e.claimedAttempt
  keeps : ∀ w outcome retryIn k row, storedRow s.db dep.store.table k = some row →
    row.lookup "delivered_at" ≠ some .null →
      storedRow (settleStep dep s w outcome retryIn).db dep.store.table k = some row

section Fenced

variable {dep} {st : Store} {s : State ω κ τ β} {t : OutboxWorkers.State ω κ τ (Content κ τ β)}

omit [DecidableEq ω] [LinearOrder τ] in
theorem storedRow_eq {db : Database κ τ β} {serial : ℕ} {tables : Tables κ τ (Content κ τ β)}
    (h : Stores st db serial tables) (k : κ) :
    storedRow db st.table k = (tables.main.find k).map fun r => encode (k, r) := by
  rw [storedRow, h.main, Option.bind_some, relation, List.find?_map, Table.find, Option.map_map]
  have keyed : (hasKey k ∘ encode : κ × OutboxStatements.Row τ (Content κ τ β) → Bool) =
      fun row => decide (row.1 = k) := rfl
  rw [keyed]
  cases found : tables.main.rows.find? fun row => decide (row.1 = k) with
  | none => rfl
  | some row =>
    have same : row.1 = k := by simpa using List.find?_some found
    subst same
    rfl

omit [DecidableEq ω] [LinearOrder τ] in
theorem storedRow_ne {db db' : Database κ τ β} {serial serial' : ℕ}
    {tables tables' : Tables κ τ (Content κ τ β)} (h : Stores st db serial tables)
    (h' : Stores st db' serial' tables') {k : κ}
    (changed : storedRow db' st.table k ≠ storedRow db st.table k) :
    tables'.main.find k ≠ tables.main.find k := by
  intro same
  rw [storedRow_eq h, storedRow_eq h', same] at changed
  exact changed rfl

theorem fencing_of_shows (h : Shows dep.store s t) (sound : OutboxWorkers.Sound dep.system t) :
    Fencing dep s where
  once := by
    rw [h.obtained]
    exact sound.once
  latest := by
    intro w e rest outcome retryIn db a held settled applied
    have agrees := dispatchAndSettle_agrees h.db (dep.engine s.now []) (dep.config w).maxAttempts e
      outcome retryIn
    rw [settled] at agrees
    obtain ⟨tables, settled', stores⟩ := agrees.of_ok
    rw [h.obtained]
    refine (OutboxWorkers.fencing_of_sound sound).latest w e rest outcome
      (dep.later s.now retryIn) tables a ((h.workers w).held.symm.trans held) ?_ ?_
    · rw [← h.now]
      exact settled'
    · exact applied.imp_right fun ⟨k, changed⟩ => ⟨k, storedRow_ne h.db stores changed⟩
  keeps := by
    intro w outcome retryIn k row found delivered
    rw [storedRow_eq h.db, Option.map_eq_some_iff] at found
    obtain ⟨r, found, rfl⟩ := found
    have set : r.deliveredAt ≠ none := by
      intro none
      rw [lookup_deliveredAt, none] at delivered
      exact delivered rfl
    rw [storedRow_eq (h.settleStep w outcome retryIn).db,
      OutboxWorkers.settleStep_keeps_delivered w outcome _ found set, Option.map_some]

def initial (now : τ) (db : Database κ τ β) : State ω κ τ β :=
  ⟨now, db, fun _ => .settling [], [], []⟩

/-- Whatever the dialect, the interleaving and the crashes: the claims the texts make give
out distinct attempt numbers of an event, a settlement that changes a row or reports so is
of the latest claim, and rows that are delivered stay as they are. -/
theorem sql_claims_fence_settlements (usable : dep.Usable) {now : τ}
    {db : Database κ τ β} (created : Stores dep.store db 0 ⟨.empty, .empty⟩)
    {events : List (Event ω κ τ β δ)}
    (allowed : ((machine dep).under (Fresh dep)).Allowed (initial now db) events) :
    Fencing dep ((machine dep).run (initial now db) events) := by
  have start : Shows dep.store (initial now db : State ω κ τ β) (OutboxWorkers.initial now) :=
    ⟨rfl, created, fun _ => .settling [], rfl, rfl⟩
  obtain ⟨image, ran, reached⟩ := fresh_texts_refine usable start allowed
  refine fencing_of_shows reached ?_
  exact invariant_under_condition (OutboxWorkers.sound_initial now)
    (fun _ _ h enabled new => OutboxWorkers.sound_step h enabled new) ran

structure Starved (s : State ω κ τ β) : Prop where
  obtained : s.obtained = []
  held : ∀ w, (s.workers w).held = []

omit [DecidableEq κ] [LinearOrder τ] in
theorem Starved.setWorker (h : Starved s) (w : ω) {worker : Worker κ} (none : worker.held = []) :
    Starved (s.setWorker w worker) where
  obtained := h.obtained
  held := by
    intro v
    by_cases same : v = w
    · subst same
      simpa [State.setWorker] using none
    · simpa [State.setWorker, same] using h.held v

theorem starved_step (postgres : dep.dialect = .postgres) (hidden : dep.store.table = "claimed")
    (h : Starved s) {e : Event ω κ τ β δ} (enabled : Enabled s e) : Starved (next dep s e) := by
  cases e with
  | tick later => exact ⟨h.obtained, h.held⟩
  | publish eventId eventType subjectId payload =>
    simp only [next, publishStep]
    split
    · exact h
    · exact ⟨h.obtained, h.held⟩
  | enqueue eventId eventType payload =>
    simp only [next, enqueueStep]
    split
    · exact h
    · exact ⟨h.obtained, h.held⟩
    · exact ⟨h.obtained, h.held⟩
  | poll w locked =>
    rw [next, pollStep]
    cases dep.store.poll (dep.engine s.now locked) dep.decodes s.db (dep.config w).batchSize
      (dep.config w).maxAttempts with
    | error error => exact h
    | ok batch => exact h.setWorker w rfl
  | claim w =>
    obtain ⟨error, refused⟩ : ∃ error, dep.store.claim (dep.engine s.now []) s.db
        (s.workers w).polled (dep.leaseFor w (s.workers w).polled.length) = .error error :=
      claim_hidden _ postgres hidden enabled _
    simp only [next, claimStep, refused]
    exact h.setWorker w rfl
  | settle w outcome retryIn => exact absurd (h.held w) enabled
  | rollback w => exact absurd (h.held w) enabled
  | crash w => exact h.setWorker w rfl

/-- A PostgreSQL outbox in a table called `claimed` hands nothing to its workers: the name
is accepted, but it is the alias of every claim, and the database refuses them all. -/
theorem hidden_outbox_starves (postgres : dep.dialect = .postgres)
    (hidden : dep.store.table = "claimed") {now : τ} {db : Database κ τ β}
    {events : List (Event ω κ τ β δ)} (allowed : (machine dep).Allowed (initial now db) events) :
    validateTableName dep.store.table = .ok () ∧
      Starved ((machine dep).run (initial now db) events) := by
  constructor
  · rw [hidden]
    rfl
  · exact invariant_of_steps (I := Starved) ⟨rfl, fun _ => rfl⟩
      (fun _ _ h enabled => starved_step postgres hidden h enabled) allowed

end Fenced

section Sample


def sampleDb (table : String) : Database ℕ ℕ Unit := fun name =>
  if name = table then some (relation 0 .empty) else none

def sampleDeployment (dialect : Dialect) (table : String) : Deployment Bool ℕ ℕ Unit ℕ :=
  ⟨dialect, ⟨table, none⟩, fun _ => ⟨10, 2⟩, fun _ => true, fun _ n => 30 * n,
    fun now d => now + d⟩

theorem stores_sampleDb (dialect : Dialect) (table : String) :
    Stores (sampleDeployment dialect table).store (sampleDb table) 0 ⟨.empty, .empty⟩ where
  main := if_pos rfl
  deadLetter := nofun

theorem sampleDeployment_usable (dialect : Dialect) :
    (sampleDeployment dialect "outbox").Usable where
  small := fun _ => show 10 ≤ i64Max by decide
  apart := fun _ => show "outbox" ≠ "claimed" by decide

/-- A publication, and a worker that polls and claims it. -/
def sampleRun : List (Event Bool ℕ ℕ Unit ℕ) :=
  [.publish 7 "created" none (.ok ()), .poll false [], .claim false]

def sampleOutbox : Outbox ℕ ℕ Unit := ⟨[(7, .fresh 0 ⟨"created", (), none, 0⟩)], by decide⟩

def samplePublished (table : String) : State Bool ℕ ℕ Unit :=
  ⟨0, (sampleDb table).set table (relation 1 sampleOutbox), fun _ => .settling [], [7], []⟩

theorem sample_publish (dialect : Dialect) (table : String) :
    publishStep (sampleDeployment dialect table) (initial 0 (sampleDb table)) 7 "created" none
      (.ok ()) = samplePublished table := by
  have inserted : publishInTx ((sampleDeployment dialect table).engine 0 []) table (sampleDb table)
      7 "created" none (.ok ()) = .ok ((samplePublished table).db, 7) :=
    publishInTx_accepted (stores_sampleDb dialect table)
      ((sampleDeployment dialect table).engine 0 []) 7 (by decide) () none
  exact publishStep_ok inserted

theorem sample_poll (dialect : Dialect) (table : String) :
    Enabled (pollStep (sampleDeployment dialect table) (samplePublished table) false [])
      (.claim false : Event Bool ℕ ℕ Unit ℕ) := by
  have stores : Stores (sampleDeployment dialect table).store (samplePublished table).db 1
      ⟨sampleOutbox, .empty⟩ := (stores_sampleDb dialect table).set_main 1 sampleOutbox
  rw [pollStep_eq stores]
  cases dialect <;> exact List.cons_ne_nil _ _

theorem sampleRun_allowed (dialect : Dialect) (table : String) :
    ((machine (sampleDeployment dialect table)).under
      (Fresh (sampleDeployment dialect table))).Allowed (initial 0 (sampleDb table)) sampleRun := by
  simp only [sampleRun, Machine.Allowed, Machine.under, machine, next, sample_publish]
  exact ⟨⟨trivial, fun old => absurd old List.not_mem_nil⟩, ⟨⟨rfl, rfl⟩, trivial⟩,
    ⟨sample_poll dialect table, trivial⟩, trivial⟩

theorem sql_claims_fence_settlements_sample :
    Fencing (sampleDeployment .mysql "outbox") ((machine (sampleDeployment .mysql "outbox")).run
      (initial 0 (sampleDb "outbox")) sampleRun) :=
  sql_claims_fence_settlements (sampleDeployment_usable .mysql) (stores_sampleDb .mysql "outbox")
    (sampleRun_allowed .mysql "outbox")

theorem hidden_outbox_starves_sample :
    validateTableName "claimed" = .ok () ∧
      Starved ((machine (sampleDeployment .postgres "claimed")).run
        (initial 0 (sampleDb "claimed")) sampleRun) :=
  hidden_outbox_starves rfl rfl (allowed_of_under (sampleRun_allowed .postgres "claimed"))

end Sample

end OutboxSqlWorkers
