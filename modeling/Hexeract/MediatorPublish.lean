import Hexeract.LibraryInterleavings
import Hexeract.BusEnvelope

/-! # The mediator's notification fan-out

`publish` runs one chain of middlewares around each handler of a notification. The chains
are polled in any order; each has its own context, its own terminal and its own boundary at
which a panic is caught. -/
namespace MediatorPublish

open LibraryInterleavings StdTime BusEnvelope

/-! ## Errors and panics -/

inductive HexeractError where
  | handlerNotFound (messageType : String)
  | handlerFailed (source : String)
  | timeout (typeName : String) (duration : Duration)
  | downcastFailed (expected : String)
  | inputDowncastFailed (expected : String)
  | cancelled (typeName : String)
  | publishFailed (notificationType : String) (total : ℕ)
      (failures : List (String × HexeractError))
  | handlerPanicked (payload : String)
  | dispatch (message : String)

abbrev NotificationFailure := String × HexeractError

inductive PanicPayload where
  | str (message : String)
  | string (message : String)
  | other

def panicMessage : PanicPayload → String
  | .str message => message
  | .string message => message
  | .other => "unknown panic payload"

/-! ## Middlewares and handlers -/

structure MessageEnvelope where
  typeName : String
  messageId : Uuid
  correlationId : Uuid

structure HandlerContext where
  messageId : Uuid
  correlationId : Uuid

/-- Asynchronous code that shares nothing but its context: it may await, cancel its context
or ask whether it is cancelled, before it ends. -/
inductive Code (ε : Type) where
  | ends (how : ε)
  | pause (rest : Code ε)
  | cancel (rest : Code ε)
  | observe (rest : Bool → Code ε)

inductive Ending (α : Type) where
  | returned (result : Except HexeractError α)
  | unwound (payload : PanicPayload)

/-- The type-erased output of a chain, which `publish` ignores. -/
inductive BoxOutput where
  | unit
  | other (typeName : String)

/-- What a middleware does with the result of `next.run`. `Next` is gone by then. -/
abbrev Frame := Except HexeractError BoxOutput → Code (Ending BoxOutput)

/-- How the code of a middleware ends, if it does not first call `next.run`, which consumes
its `Next`. -/
inductive Turn where
  | ended (ending : Ending BoxOutput)
  | proceed (frame : Frame)

abbrev Middleware := MessageEnvelope → HandlerContext → Code Turn

structure NotificationHandler (N : Type) where
  typeName : String
  handle : N → HandlerContext → Code (Ending Unit)

def Code.map {ε δ : Type} (f : ε → δ) : Code ε → Code δ
  | .ends how => .ends (f how)
  | .pause rest => .pause (rest.map f)
  | .cancel rest => .cancel (rest.map f)
  | .observe rest => .observe fun cancelled => (rest cancelled).map f

def Ending.boxed : Ending Unit → Ending BoxOutput
  | .returned result => .returned (result.map fun _ => .unit)
  | .unwound payload => .unwound payload

/-! ## One dispatch, poll by poll -/

section Dispatch

variable {N : Type}

/-- One handler of the fan-out with its own envelope and context. -/
structure Dispatch (N : Type) where
  handler : NotificationHandler N
  envelope : MessageEnvelope
  ctx : HandlerContext

/-- The cancellation token of the context, the payload parked in the terminal, and how often
the handler was called. -/
structure Scope (N : Type) where
  cancelled : Bool
  payload : Option N
  handled : ℕ

/-- `entering` is at `Next::run` with the rest of the chain; `running` is in the code of a
middleware, whose `Next` holds the rest, or of the handler; `leaving` returns, or unwinds,
into the innermost waiting middleware. -/
inductive Control where
  | entering (rest : List Middleware) (frames : List Frame)
  | running (code : Code Turn) (rest : List Middleware) (frames : List Frame)
  | leaving (ending : Ending BoxOutput) (frames : List Frame)
  | settled (ending : Ending BoxOutput)

structure Task (N : Type) where
  control : Control
  scope : Scope N

/-- `NotificationTerminal::dispatch` -/
def Dispatch.terminal (d : Dispatch N) (scope : Scope N) (frames : List Frame) : Task N :=
  match scope.payload with
  | none =>
    ⟨.leaving (.returned (.error (.dispatch "notification terminal called twice"))) frames, scope⟩
  | some notification =>
    ⟨.running ((d.handler.handle notification d.ctx).map fun ending => .ended ending.boxed) []
        frames,
      { scope with payload := none, handled := scope.handled + 1 }⟩

/-- `Next::run` up to the code it calls. -/
def Dispatch.enter (d : Dispatch N) (scope : Scope N) (frames : List Frame)
    (rest : List Middleware) : Task N :=
  if scope.cancelled then
    ⟨.leaving (.returned (.error (.cancelled d.envelope.typeName))) frames, scope⟩
  else
    match rest with
    | [] => d.terminal scope frames
    | head :: rest => ⟨.running (head d.envelope d.ctx) rest frames, scope⟩

def Dispatch.step (d : Dispatch N) (task : Task N) : Task N :=
  match task.control with
  | .entering rest frames => d.enter task.scope frames rest
  | .running (.ends (.ended ending)) _ frames => ⟨.leaving ending frames, task.scope⟩
  | .running (.ends (.proceed frame)) rest frames =>
    ⟨.entering rest (frame :: frames), task.scope⟩
  | .running (.pause code) rest frames => ⟨.running code rest frames, task.scope⟩
  | .running (.cancel code) rest frames =>
    ⟨.running code rest frames, { task.scope with cancelled := true }⟩
  | .running (.observe code) rest frames =>
    ⟨.running (code task.scope.cancelled) rest frames, task.scope⟩
  | .leaving (.returned result) (frame :: frames) =>
    ⟨.running ((frame result).map .ended) [] frames, task.scope⟩
  | .leaving (.unwound payload) (_ :: frames) => ⟨.leaving (.unwound payload) frames, task.scope⟩
  | .leaving ending [] => ⟨.settled ending, task.scope⟩
  | .settled _ => task

def Task.isSettled (task : Task N) : Bool :=
  match task.control with
  | .settled _ => true
  | _ => false

def Dispatch.outcome (d : Dispatch N) : Ending BoxOutput → Except NotificationFailure Unit
  | .returned (.ok _) => .ok ()
  | .returned (.error error) => .error (d.handler.typeName, error)
  | .unwound payload => .error (d.handler.typeName, .handlerPanicked (panicMessage payload))

def Dispatch.recorded (d : Dispatch N) (task : Task N) :
    Option (Except NotificationFailure Unit) :=
  match task.control with
  | .settled ending => some (d.outcome ending)
  | _ => none

end Dispatch

/-! ## The fan-out -/

section FanOut

variable {N : Type}

structure Publication (N : Type) where
  typeName : String
  middlewares : List Middleware
  registered : Option (List (NotificationHandler N))
  notification : N
  correlationId : Uuid
  /-- The identifiers minted for the dispatches, in registration order. -/
  messageIds : ℕ → Uuid

def Publication.handlers (call : Publication N) : List (NotificationHandler N) :=
  call.registered.getD []

def Publication.dispatch (call : Publication N) (k : Fin call.handlers.length) : Dispatch N where
  handler := call.handlers.get k
  envelope := ⟨call.typeName, call.messageIds k, call.correlationId⟩
  ctx := ⟨call.messageIds k, call.correlationId⟩

def Publication.start (call : Publication N) : Task N :=
  ⟨.entering call.middlewares [], ⟨false, some call.notification, 0⟩⟩

/-- The dispatches after some polls of the joined future, in the order in which they came. -/
def Publication.after (call : Publication N) (polls : List (Fin call.handlers.length)) :
    Fin call.handlers.length → Task N :=
  interleave (fun k => (call.dispatch k).step) (fun _ => call.start) polls

def failureOf : Except NotificationFailure Unit → Option NotificationFailure
  | .ok _ => none
  | .error failure => some failure

/-- What `publish` returns, once the joined future has every outcome. -/
def Publication.result (call : Publication N) (tasks : Fin call.handlers.length → Task N) :
    Option (Except HexeractError Unit) :=
  match call.registered with
  | none => some (.ok ())
  | some [] => some (.ok ())
  | some (_ :: _) =>
    if ∀ k, (tasks k).isSettled = true then
      let failures := (List.ofFn fun k => (call.dispatch k).recorded (tasks k)).filterMap
        fun recorded => recorded.bind failureOf
      if failures.isEmpty then some (.ok ())
      else some (.error (.publishFailed call.typeName call.handlers.length failures))
    else none

end FanOut

/-! ## A dispatch on its own -/

section Alone

variable {N : Type}

def Code.finish {ε : Type} : Code ε → Bool → ε × Bool
  | .ends how, cancelled => (how, cancelled)
  | .pause rest, cancelled => rest.finish cancelled
  | .cancel rest, _ => rest.finish true
  | .observe rest, cancelled => (rest cancelled).finish cancelled

def resume (frame : Frame) : Ending BoxOutput × Scope N → Ending BoxOutput × Scope N
  | (.unwound payload, scope) => (.unwound payload, scope)
  | (.returned result, scope) =>
    let (ending, cancelled) := (frame result).finish scope.cancelled
    (ending, { scope with cancelled })

/-- The chain around one handler, run from one end to the other. -/
def Dispatch.chain (d : Dispatch N) : List Middleware → Scope N → Ending BoxOutput × Scope N
  | [], scope =>
    if scope.cancelled then (.returned (.error (.cancelled d.envelope.typeName)), scope)
    else
      match scope.payload with
      | none => (.returned (.error (.dispatch "notification terminal called twice")), scope)
      | some notification =>
        let (ending, cancelled) := (d.handler.handle notification d.ctx).finish scope.cancelled
        (ending.boxed, ⟨cancelled, none, scope.handled + 1⟩)
  | head :: rest, scope =>
    if scope.cancelled then (.returned (.error (.cancelled d.envelope.typeName)), scope)
    else
      match (head d.envelope d.ctx).finish scope.cancelled with
      | (.ended ending, cancelled) => (ending, { scope with cancelled })
      | (.proceed frame, cancelled) => resume frame (d.chain rest { scope with cancelled })

/-- Every middleware calls `next.run`, and never on a cancelled context. -/
def Dispatch.passesOn (d : Dispatch N) : List Middleware → Bool → Bool
  | [], cancelled => !cancelled
  | head :: rest, cancelled =>
    !cancelled &&
      match (head d.envelope d.ctx).finish cancelled with
      | (.ended _, _) => false
      | (.proceed _, cancelled) => d.passesOn rest cancelled

theorem finish_map {ε δ : Type} (f : ε → δ) (code : Code ε) (cancelled : Bool) :
    (code.map f).finish cancelled =
      (f (code.finish cancelled).1, (code.finish cancelled).2) := by
  induction code generalizing cancelled with
  | ends how => rfl
  | pause rest ih => exact ih cancelled
  | cancel rest ih => exact ih true
  | observe rest ih => exact ih cancelled cancelled

theorem reaches_end (d : Dispatch N) (code : Code Turn) (rest : List Middleware)
    (frames : List Frame) (scope : Scope N) :
    Reaches d.step ⟨.running code rest frames, scope⟩
      ⟨.running (.ends (code.finish scope.cancelled).1) rest frames,
        { scope with cancelled := (code.finish scope.cancelled).2 }⟩ := by
  induction code generalizing scope with
  | ends how => exact Reaches.refl _
  | pause code ih => exact Reaches.cons (ih scope)
  | cancel code ih => exact Reaches.cons (ih { scope with cancelled := true })
  | observe code ih => exact Reaches.cons (ih scope.cancelled scope)

theorem reaches_leaving (d : Dispatch N) {ε : Type} (code : Code ε) (f : ε → Ending BoxOutput)
    (frames : List Frame) (scope : Scope N) :
    Reaches d.step ⟨.running (code.map fun how => .ended (f how)) [] frames, scope⟩
      ⟨.leaving (f (code.finish scope.cancelled).1) frames,
        { scope with cancelled := (code.finish scope.cancelled).2 }⟩ := by
  refine (reaches_end d _ [] frames scope).trans ?_
  rw [finish_map]
  exact Reaches.cons (Reaches.refl _)

theorem reaches_resume (d : Dispatch N) (frame : Frame) (frames : List Frame)
    (inner : Ending BoxOutput × Scope N) :
    Reaches d.step ⟨.leaving inner.1 (frame :: frames), inner.2⟩
      ⟨.leaving (resume frame inner).1 frames, (resume frame inner).2⟩ := by
  rcases inner with ⟨result | payload, scope⟩
  · exact Reaches.cons (reaches_leaving d (frame result) id frames scope)
  · exact Reaches.cons (Reaches.refl _)

/-- A chain that is polled often enough leaves with the ending of the chain on its own. -/
theorem reaches_chain (d : Dispatch N) (rest : List Middleware) (frames : List Frame)
    (scope : Scope N) :
    Reaches d.step ⟨.entering rest frames, scope⟩
      ⟨.leaving (d.chain rest scope).1 frames, (d.chain rest scope).2⟩ := by
  induction rest generalizing frames scope with
  | nil =>
    refine Reaches.cons ?_
    simp only [Dispatch.step, Dispatch.enter, Dispatch.chain, Dispatch.terminal]
    split_ifs with cancelled
    · exact Reaches.refl _
    · cases scope.payload with
      | none => exact Reaches.refl _
      | some notification => exact reaches_leaving d _ Ending.boxed frames _
  | cons head rest ih =>
    refine Reaches.cons ?_
    simp only [Dispatch.step, Dispatch.enter, Dispatch.chain]
    split_ifs with cancelled
    · exact Reaches.refl _
    · refine (reaches_end d _ rest frames scope).trans ?_
      rcases (head d.envelope d.ctx).finish scope.cancelled with ⟨ending | frame, token⟩
      · exact Reaches.cons (Reaches.refl _)
      · exact Reaches.cons ((ih (frame :: frames) _).trans (reaches_resume d frame frames _))

theorem step_leaving_nil (d : Dispatch N) (ending : Ending BoxOutput) (scope : Scope N) :
    d.step ⟨.leaving ending [], scope⟩ = ⟨.settled ending, scope⟩ := by
  cases ending <;> rfl

theorem handled_resume (frame : Frame) (inner : Ending BoxOutput × Scope N) :
    (resume frame inner).2.handled = inner.2.handled := by
  rcases inner with ⟨result | payload, scope⟩ <;> rfl

/-- The handler is called when the chain passes on, and only then. -/
theorem handled_chain (d : Dispatch N) (rest : List Middleware) {scope : Scope N}
    {notification : N} (parked : scope.payload = some notification) :
    (d.chain rest scope).2.handled = scope.handled + (d.passesOn rest scope.cancelled).toNat := by
  induction rest generalizing scope with
  | nil =>
    simp only [Dispatch.chain, Dispatch.passesOn, parked]
    cases scope.cancelled <;> rfl
  | cons head rest ih =>
    simp only [Dispatch.chain, Dispatch.passesOn]
    cases scope.cancelled with
    | true => rfl
    | false =>
      rcases (head d.envelope d.ctx).finish false with ⟨ending | frame, token⟩
      · rfl
      · exact (handled_resume frame _).trans (ih parked)

theorem handled_step (d : Dispatch N) (task : Task N) :
    task.scope.handled ≤ (d.step task).scope.handled := by
  rcases task with ⟨control, scope⟩
  cases control with
  | entering rest frames =>
    simp only [Dispatch.step, Dispatch.enter, Dispatch.terminal]
    cases scope.cancelled with
    | true => exact le_rfl
    | false =>
      cases rest with
      | nil => cases scope.payload <;> first | exact le_rfl | exact Nat.le_succ _
      | cons head rest => exact le_rfl
  | running code rest frames =>
    rcases code with (ending | frame) | code | code | code <;> exact le_rfl
  | leaving ending frames => cases ending <;> cases frames <;> exact le_rfl
  | settled ending => exact le_rfl

end Alone

/-! ## Every dispatch of a fan-out is a dispatch on its own -/

section Isolation

variable {N : Type} (call : Publication N)

/-- The ending of one chain and what it leaves behind, without any other dispatch. -/
def Publication.alone (k : Fin call.handlers.length) : Ending BoxOutput × Scope N :=
  (call.dispatch k).chain call.middlewares ⟨false, some call.notification, 0⟩

def Publication.aloneOutcome (k : Fin call.handlers.length) : Except NotificationFailure Unit :=
  (call.dispatch k).outcome (call.alone k).1

def Publication.chainPassesOn (k : Fin call.handlers.length) : Bool :=
  (call.dispatch k).passesOn call.middlewares false

theorem reaches_alone (k : Fin call.handlers.length) :
    Reaches (call.dispatch k).step call.start
      ⟨.settled (call.alone k).1, (call.alone k).2⟩ := by
  refine (reaches_chain (call.dispatch k) call.middlewares [] _).trans (Reaches.cons ?_)
  rw [step_leaving_nil]
  exact Reaches.refl _

theorem handled_alone (k : Fin call.handlers.length) :
    (call.alone k).2.handled = (call.chainPassesOn k).toNat :=
  (handled_chain (call.dispatch k) call.middlewares rfl).trans (Nat.zero_add _)

theorem after_apply (polls : List (Fin call.handlers.length)) (k : Fin call.handlers.length) :
    call.after polls k = (call.dispatch k).step^[polls.count k] call.start :=
  interleave_apply _ _ polls k

/-- A settled dispatch is as it would be if it had run alone. -/
theorem after_of_settled {polls : List (Fin call.handlers.length)} {k : Fin call.handlers.length}
    (settled : (call.after polls k).isSettled = true) :
    call.after polls k = ⟨.settled (call.alone k).1, (call.alone k).2⟩ := by
  refine (reaches_alone call k).rest_unique rfl ⟨polls.count k, (after_apply call polls k).symm⟩ ?_
  rcases stands : call.after polls k with ⟨control, scope⟩
  rw [stands] at settled
  cases control <;> first | rfl | cases settled

theorem isSettled_of_recorded {d : Dispatch N} {task : Task N}
    {outcome : Except NotificationFailure Unit} (recorded : d.recorded task = some outcome) :
    task.isSettled = true := by
  rcases task with ⟨control, scope⟩
  cases control <;> first | rfl | cases recorded

theorem recorded_of_settled {polls : List (Fin call.handlers.length)}
    {k : Fin call.handlers.length} (settled : (call.after polls k).isSettled = true) :
    (call.dispatch k).recorded (call.after polls k) = some (call.aloneOutcome k) := by
  rw [after_of_settled call settled]
  rfl

theorem handled_of_settled {polls : List (Fin call.handlers.length)}
    {k : Fin call.handlers.length} (settled : (call.after polls k).isSettled = true) :
    (call.after polls k).scope.handled = (call.chainPassesOn k).toNat := by
  rw [after_of_settled call settled]
  exact handled_alone call k

theorem handled_le_one (polls : List (Fin call.handlers.length)) (k : Fin call.handlers.length) :
    (call.after polls k).scope.handled ≤ 1 := by
  rw [after_apply]
  have atRest := (reaches_alone call k).count_le rfl (fun task => task.scope.handled)
    (handled_step (call.dispatch k)) (polls.count k)
  refine atRest.trans ?_
  rw [handled_alone]
  exact Bool.toNat_le _

/-- The failures of the chains, each run alone, in registration order. -/
def Publication.failures : List NotificationFailure :=
  (List.ofFn call.aloneOutcome).filterMap failureOf

theorem failureOf_eq_none {outcome : Except NotificationFailure Unit} :
    failureOf outcome = none ↔ outcome = .ok () := by
  cases outcome <;> simp [failureOf]

theorem failures_eq_nil : call.failures = [] ↔ ∀ k, call.aloneOutcome k = .ok () := by
  simp [Publication.failures, List.filterMap_eq_nil_iff, failureOf_eq_none]

theorem failures_after {polls : List (Fin call.handlers.length)}
    (settled : ∀ k, (call.after polls k).isSettled = true) :
    (List.ofFn fun k => (call.dispatch k).recorded (call.after polls k)).filterMap
      (fun recorded => recorded.bind failureOf) = call.failures := by
  have joined : (List.ofFn fun k => (call.dispatch k).recorded (call.after polls k)) =
      (List.ofFn call.aloneOutcome).map some := by
    rw [List.map_ofFn]
    exact congrArg List.ofFn (funext fun k => recorded_of_settled call (settled k))
  rw [joined, List.filterMap_map]
  rfl

/-- What `publish` returns when the chains do what they do alone. -/
def Publication.aloneResult : Except HexeractError Unit :=
  if call.failures = [] then .ok ()
  else .error (.publishFailed call.typeName call.handlers.length call.failures)

theorem failures_of_handlers_nil (none : call.handlers = []) : call.failures = [] := by
  rw [failures_eq_nil]
  intro k
  exact absurd (k.2.trans_eq (by rw [none]; rfl)) (Nat.not_lt_zero _)

theorem result_of_settled {polls : List (Fin call.handlers.length)}
    (settled : ∀ k, (call.after polls k).isSettled = true) :
    call.result (call.after polls) = some call.aloneResult := by
  have early : call.handlers = [] → (some (.ok ()) : Option (Except HexeractError Unit)) =
      some call.aloneResult := by
    intro none
    rw [Publication.aloneResult, if_pos (failures_of_handlers_nil call none)]
  unfold Publication.result
  split
  case h_1 none => exact early (by rw [Publication.handlers, none]; rfl)
  case h_2 empty => exact early (by rw [Publication.handlers, empty]; rfl)
  case h_3 head rest _ =>
    simp only [if_pos settled, failures_after call settled, Publication.aloneResult]
    cases call.failures <;> rfl

theorem settled_of_result {polls : List (Fin call.handlers.length)}
    {result : Except HexeractError Unit}
    (returned : call.result (call.after polls) = some result) (k : Fin call.handlers.length) :
    (call.after polls k).isSettled = true := by
  have some : 0 < call.handlers.length := k.pos
  unfold Publication.result at returned
  split at returned
  case h_1 none =>
    rw [Publication.handlers, none] at some
    exact absurd some (Nat.lt_irrefl 0)
  case h_2 empty =>
    rw [Publication.handlers, empty] at some
    exact absurd some (Nat.lt_irrefl 0)
  case h_3 head rest _ =>
    by_contra running
    rw [if_neg fun settled => running (settled k)] at returned
    cases returned

/-- However the dispatches are polled, a handler is called at most once; a dispatch that has
settled called its handler exactly when its chain passes on and recorded the outcome its
chain has alone; polls enough for every dispatch complete the call, and the call returns
what the outcomes of the chains alone say. -/
theorem publish_isolates (call : Publication N) :
    (∀ polls k, (call.after polls k).scope.handled ≤ 1) ∧
    (∀ polls k outcome, (call.dispatch k).recorded (call.after polls k) = some outcome →
      outcome = call.aloneOutcome k ∧
      (call.after polls k).scope.handled = (call.chainPassesOn k).toNat) ∧
    (∃ enough : Fin call.handlers.length → ℕ, ∀ polls, (∀ k, enough k ≤ polls.count k) →
      ∃ result, call.result (call.after polls) = some result) ∧
    ∀ polls result, call.result (call.after polls) = some result →
      (∀ k, (call.after polls k).scope.handled = (call.chainPassesOn k).toNat) ∧
      (result = .ok () ↔ ∀ k, call.aloneOutcome k = .ok ()) ∧
      ∀ error, result = .error error →
        error = .publishFailed call.typeName call.handlers.length
          ((List.ofFn call.aloneOutcome).filterMap failureOf) := by
  refine ⟨handled_le_one call, fun polls k outcome recorded => ?_, ?_,
    fun polls result returned => ?_⟩
  · have settled := isSettled_of_recorded recorded
    rw [recorded_of_settled call settled] at recorded
    exact ⟨(Option.some.inj recorded).symm, handled_of_settled call settled⟩
  · choose enough settles using fun k => (reaches_alone call k).at_rest rfl
    refine ⟨enough, fun polls polled => ⟨call.aloneResult, result_of_settled call fun k => ?_⟩⟩
    rw [after_apply, settles k (polls.count k) (polled k)]
    rfl
  · have settled := settled_of_result call returned
    rw [result_of_settled call settled] at returned
    cases returned
    refine ⟨fun k => handled_of_settled call (settled k), ?_, fun error failed => ?_⟩
    · rw [← failures_eq_nil, Publication.aloneResult]
      split_ifs with none <;> simp [none]
    · rw [Publication.aloneResult] at failed
      split_ifs at failed
      cases failed
      rfl

/-- Cancels the context of the third dispatch before it passes on. -/
def guardMiddleware : Middleware := fun envelope _ =>
  let passOn : Code Turn := .ends (.proceed fun result => .ends (.returned result))
  if envelope.messageId = Uuid.fromU128 2 then .cancel passOn else .pause passOn

def orderPlaced : Publication String where
  typeName := "shop::OrderPlaced"
  middlewares := [guardMiddleware]
  registered := some
    [⟨"shop::Audit", fun _ _ => .pause (.ends (.unwound (.str "disk full")))⟩,
     ⟨"shop::Notify", fun _ _ => .pause (.pause (.ends (.returned (.ok ()))))⟩,
     ⟨"shop::Bill", fun _ _ => .ends (.returned (.ok ()))⟩]
  notification := "order 7"
  correlationId := Uuid.fromU128 9
  messageIds := Uuid.fromU128

/-- Rounds of polls of every dispatch, the last one first. -/
def Publication.inTurn (call : Publication N) (rounds : ℕ) : List (Fin call.handlers.length) :=
  (List.replicate rounds (List.finRange call.handlers.length).reverse).flatten

theorem publish_isolates_sample :
    orderPlaced.result (orderPlaced.after (orderPlaced.inTurn 12)) =
      some (.error (.publishFailed "shop::OrderPlaced" 3
        [("shop::Audit", .handlerPanicked "disk full"),
         ("shop::Bill", .cancelled "shop::OrderPlaced")])) ∧
    ∀ k, (orderPlaced.after (orderPlaced.inTurn 12) k).scope.handled =
      (orderPlaced.chainPassesOn k).toNat := by
  have returned : orderPlaced.result (orderPlaced.after (orderPlaced.inTurn 12)) =
      some (.error (.publishFailed "shop::OrderPlaced" 3
        [("shop::Audit", .handlerPanicked "disk full"),
         ("shop::Bill", .cancelled "shop::OrderPlaced")])) := by
    rfl
  exact ⟨returned, ((publish_isolates orderPlaced).2.2.2 _ _ returned).1⟩

end Isolation

end MediatorPublish
