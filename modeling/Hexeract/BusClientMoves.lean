import Hexeract.LibraryCollections
import Hexeract.BusRequestClient

/-! # What one event of the client does

`Move` lists everything a call can do in one step. The moves that touch no shared state
are grouped in `Quiet`. -/
namespace BusClientMoves

open LibraryMachines LibraryCollections LibraryFramedBytes StdTime BusErrors BusEnvelope
open BusReplyAcceptance BusRegistryEffects BusRequestClient
open BusRequestRegistry hiding Event Enabled next machine

variable {n m : ℕ}

/-- A move of one call that leaves all shared state as it is. -/
inductive Quiet (codec : ReplyCodec) (requests : Fin n → Request) (client : Client n m)
    (c : Fin n) : CallPhase → CallPhase → Prop
  | refused (rejection : RegisterRejection) :
      Quiet codec requests client c .started
        (.unguarded (.finished (.error (.fromRejection rejection))) false)
  | address {guard : ℕ} {inbox : String} (ready : client.replyInbox = .ready inbox) :
      Quiet codec requests client c (.admitted guard) (.addressed guard ⟨inbox, client.marks⟩)
  | reconnecting {guard : ℕ} (down : client.replyInbox = .reconnecting) :
      Quiet codec requests client c (.admitted guard)
        (.leaving guard false (.finished (.error (.transport replyInboxReconnecting))))
  | encode {guard : ℕ} {address : Address} :
      Quiet codec requests client c (.addressed guard address) (.encoded guard address)
  | encodeFails {guard : ℕ} {address : Address} (error : BusError) :
      Quiet codec requests client c (.addressed guard address)
        (.leaving guard false (.finished (.error (.encode error))))
  | closed {guard : ℕ} {address : Address} (closing : client.lifecycle.closing = true) :
      Quiet codec requests client c (.encoded guard address)
        (.leaving guard false (.finished (.error .closed)))
  | publish {guard : ℕ} {address : Address} :
      Quiet codec requests client c (.publishing guard address) (.published guard address)
  | publishFails {guard : ℕ} {address : Address} (error : BusError) :
      Quiet codec requests client c (.publishing guard address)
        (.leaving guard true (.finished (.error (.transport error))))
  | publishTimesOut {guard : ℕ} {address : Address} :
      Quiet codec requests client c (.publishing guard address) (.timingOut guard true)
  | publishDropped {guard : ℕ} {address : Address} :
      Quiet codec requests client c (.publishing guard address) (.leaving guard true .cancelled)
  | receive {guard : ℕ} {address : Address} {envelope : Envelope}
      {authentication : ReplyAuthentication}
      (held : receiverAt client.registry guard = some (.holds envelope authentication)) :
      Quiet codec requests client c (.waiting guard address) (.leaving guard false (.finished
        ((decodeReply codec (requests c) envelope).map fun _ => authentication)))
  | wake {guard : ℕ} {address : Address}
      (lost : receiverAt client.registry guard = some .closed) :
      Quiet codec requests client c (.waiting guard address) (.woken guard)
  | waitTimesOut {guard : ℕ} {address : Address}
      (unanswered : receiverAt client.registry guard = some .empty) :
      Quiet codec requests client c (.waiting guard address) (.timingOut guard false)
  | waitDropped {guard : ℕ} {address : Address} :
      Quiet codec requests client c (.waiting guard address) (.leaving guard false .cancelled)
  | closing {guard : ℕ} (closing : client.lifecycle.closing = true) :
      Quiet codec requests client c (.woken guard)
        (.leaving guard false (.finished (.error .publicationUnknown)))
  | recheck {guard : ℕ} (running : client.lifecycle.closing = false) :
      Quiet codec requests client c (.woken guard) (.rechecking guard)
  | registryClosed {guard : ℕ} (closed : client.registry.closed = true) :
      Quiet codec requests client c (.rechecking guard)
        (.leaving guard false (.finished (.error .publicationUnknown)))
  | channelLost {guard : ℕ} (running : client.registry.closed = false) :
      Quiet codec requests client c (.rechecking guard)
        (.leaving guard false (.finished (.error (.transport replyChannelLost))))
  | readRejection {guard : ℕ} {permit : Bool} (last : Option ReplyRejection) :
      Quiet codec requests client c (.timingOut guard permit)
        (.countingRejections guard permit last)
  | readCount {guard : ℕ} {permit : Bool} {last : Option ReplyRejection} (elapsed : Duration)
      (count : UInt32) :
      Quiet codec requests client c (.countingRejections guard permit last)
        (.leaving guard permit (.finished (.error (.timeout elapsed last count))))

/-- Everything a call can do in one step. -/
inductive Move (codec : ReplyCodec) (requests : Fin n → Request) (client : Client n m)
    (c : Fin n) : Client n m → Prop
  | stay : Move codec requests client c client
  | quiet {phase : CallPhase} (silent : Quiet codec requests client c (client.calls c) phase) :
      Move codec requests client c (client.moveTo c phase)
  | start (stands : client.calls c = .idle) :
      Move codec requests client c
        ({ client with counters := client.counters.countStarted }.moveTo c .started)
  | register (stands : client.calls c = .started) {registry : RequestRegistry} {guard : ℕ}
      (admitted : client.registry.register (requests c).requestId
        ⟨(requests c).replyMessageType⟩ = .ok (registry, guard)) :
      Move codec requests client c ({ client with registry }.moveTo c (.registered guard))
  | raise {guard : ℕ} (stands : client.calls c = .registered guard) :
      Move codec requests client c
        ({ client with counters := client.counters.raiseInFlight }.moveTo c (.admitted guard))
  | permit {guard : ℕ} {address : Address} (stands : client.calls c = .encoded guard address)
      {lifecycle : PublicationState} (admitted : client.lifecycle.admission = .ok lifecycle) :
      Move codec requests client c
        ({ client with lifecycle }.moveTo c (.permitted guard address))
  | hand {guard : ℕ} {address : Address} (stands : client.calls c = .permitted guard address) :
      Move codec requests client c
        ({ client with handed := Function.update client.handed c true }.moveTo c
          (.publishing guard address))
  | returnPermit {guard : ℕ} {address : Address}
      (stands : client.calls c = .published guard address) :
      Move codec requests client c ({ client with lifecycle := client.lifecycle.dropPermit }.moveTo
        c (.waiting guard address))
  | dropPermit {guard : ℕ} {report : Report}
      (stands : client.calls c = .leaving guard true report) :
      Move codec requests client c ({ client with lifecycle := client.lifecycle.dropPermit }.moveTo
        c (.leaving guard false report))
  | dropGuard {guard : ℕ} {report : Report}
      (stands : client.calls c = .leaving guard false report) :
      Move codec requests client c
        ({ client with registry := client.registry.dropPending guard }.moveTo c
          (.unguarded report true))
  | settleFirst {report : Report} {isAdmitted : Bool}
      (stands : client.calls c = .unguarded report isAdmitted) :
      Move codec requests client c
        ({ client with counters := settleFirst client.counters isAdmitted report }.moveTo c
          (.settling report isAdmitted))
  | settleSecond {report : Report} {isAdmitted : Bool}
      (stands : client.calls c = .settling report isAdmitted) :
      Move codec requests client c
        ({ client with counters := settleSecond client.counters isAdmitted report }.moveTo c
          (.done report))

@[simp] theorem calls_moveTo_self (client : Client n m) (c : Fin n) (phase : CallPhase) :
    (client.moveTo c phase).calls c = phase := by
  simp [Client.moveTo]

theorem calls_moveTo_of_ne (client : Client n m) {c d : Fin n} (other : d ≠ c)
    (phase : CallPhase) : (client.moveTo c phase).calls d = client.calls d := by
  simp [Client.moveTo, other]

theorem Move.elsewhere {codec : ReplyCodec} {requests : Fin n → Request}
    {client after : Client n m} {c d : Fin n} (move : Move codec requests client c after)
    (other : d ≠ c) : after.calls d = client.calls d := by
  cases move with
  | stay => rfl
  | _ => exact calls_moveTo_of_ne _ other _

theorem countOf_move {codec : ReplyCodec} {requests : Fin n → Request}
    {client after : Client n m} {c : Fin n} (move : Move codec requests client c after)
    (p : CallPhase → Bool) :
    countOf p after.calls + (p (client.calls c)).toNat =
      countOf p client.calls + (p (after.calls c)).toNat := by
  have calls : after.calls = Function.update client.calls c (after.calls c) := by
    funext d
    by_cases here : d = c
    · rw [here, Function.update_self]
    · rw [Function.update_of_ne here, move.elsewhere here]
  have counted := countOf_update p client.calls c (after.calls c)
  rw [← calls] at counted
  exact counted

section Inversion

variable (codec : ReplyCodec) (requests : Fin n → Request) {client : Client n m} {c : Fin n}

theorem Move.of_quiet {phase after : CallPhase} (stands : client.calls c = phase)
    (silent : Quiet codec requests client c phase after) :
    Move codec requests client c (client.moveTo c after) := by
  subst stands
  exact .quiet silent

theorem admission_closing {state : PublicationState} {error : RequestError}
    (h : state.admission = .error error) : state.closing = true ∧ error = .closed := by
  unfold PublicationState.admission at h
  split at h
  · rename_i closing
    cases h
    exact ⟨closing, rfl⟩
  · cases h

theorem admission_ok {state admitted : PublicationState} (h : state.admission = .ok admitted) :
    state.closing = false ∧ admitted.closing = false ∧
      admitted.inFlight = state.inFlight + 1 ∧
      admitted.drained = if state.inFlight = 0 then false else state.drained := by
  unfold PublicationState.admission at h
  split at h
  · cases h
  · rename_i running
    cases h
    exact ⟨Bool.not_eq_true _ ▸ running, Bool.not_eq_true _ ▸ running, rfl, rfl⟩

theorem move_advance : Move codec requests client c (advance codec requests client c) := by
  unfold advance
  split
  · rename_i stands
    exact .start stands
  · rename_i stands
    split
    · rename_i registry guard admitted
      exact .register stands admitted
    · rename_i rejection _
      exact .of_quiet codec requests stands (.refused rejection)
  · rename_i guard stands
    exact .raise stands
  · rename_i guard stands
    split
    · rename_i inbox ready
      exact .of_quiet codec requests stands (.address ready)
    · rename_i down
      exact .of_quiet codec requests stands (.reconnecting down)
  · rename_i guard address stands
    split
    · exact .of_quiet codec requests stands .encode
    · rename_i error _
      exact .of_quiet codec requests stands (.encodeFails error)
  · rename_i guard address stands
    split
    · rename_i lifecycle admitted
      exact .permit stands admitted
    · rename_i error refused
      obtain ⟨closing, rfl⟩ := admission_closing refused
      exact .of_quiet codec requests stands (.closed closing)
  · rename_i guard address stands
    exact .hand stands
  · rename_i guard address stands
    exact .of_quiet codec requests stands .publish
  · rename_i guard address stands
    exact .returnPermit stands
  · rename_i guard address stands
    split
    · rename_i envelope authentication held
      exact .of_quiet codec requests stands (.receive held)
    · rename_i lost
      exact .of_quiet codec requests stands (.wake lost)
    · exact .stay
  · rename_i guard stands
    split
    · rename_i closing
      exact .of_quiet codec requests stands (.closing closing)
    · rename_i running
      exact .of_quiet codec requests stands (.recheck (Bool.not_eq_true _ ▸ running))
  · rename_i guard stands
    split
    · rename_i closed
      exact .of_quiet codec requests stands (.registryClosed closed)
    · rename_i running
      exact .of_quiet codec requests stands (.channelLost (Bool.not_eq_true _ ▸ running))
  · rename_i guard permit stands
    exact .of_quiet codec requests stands (.readRejection _)
  · rename_i guard permit last stands
    exact .of_quiet codec requests stands (.readCount _ _)
  · rename_i guard report stands
    exact .dropPermit stands
  · rename_i guard report stands
    exact .dropGuard stands
  · rename_i report isAdmitted stands
    exact .settleFirst stands
  · rename_i report isAdmitted stands
    exact .settleSecond stands
  · exact .stay

theorem move_publishFails (error : BusError) :
    Move codec requests client c (publishFails client c error) := by
  unfold publishFails
  split
  · rename_i guard address stands
    exact .of_quiet codec requests stands (.publishFails error)
  · exact .stay

theorem move_deadlinePasses (enabled : deadlineCanPass client c = true) :
    Move codec requests client c (deadlinePasses client c) := by
  unfold deadlinePasses
  unfold deadlineCanPass at enabled
  split
  · rename_i guard address stands
    exact .of_quiet codec requests stands .publishTimesOut
  · rename_i guard address stands
    rw [stands] at enabled
    exact .of_quiet codec requests stands (.waitTimesOut (beq_iff_eq.mp enabled))
  · exact .stay

theorem move_dropFuture : Move codec requests client c (dropFuture client c) := by
  unfold dropFuture
  split
  · rename_i guard address stands
    exact .of_quiet codec requests stands .publishDropped
  · rename_i guard address stands
    exact .of_quiet codec requests stands .waitDropped
  · exact .stay

end Inversion

/-- Everything one event can do to the client. -/
inductive Step (codec : ReplyCodec) (requests : Fin n → Request) (client : Client n m) :
    Client n m → Prop
  | call (c : Fin n) {after : Client n m} (move : Move codec requests client c after) :
      Step codec requests client after
  | deliver (envelope : Envelope) (authentication : Except TransportRefusal ReplyAuthentication) :
      Step codec requests client
        { client with registry := client.registry.resolve codec envelope authentication }
  | undecodable :
      Step codec requests client
        { client with registry := client.registry.recordRejectionKind .undecodable }
  | beginClose {j : Fin m} (stands : client.closers j = .idle) :
      Step codec requests client
        { client with
          lifecycle := { client.lifecycle with closing := true }
          closers := Function.update client.closers j (.begun (client.lifecycle.inFlight != 0)) }
  | closeRegistry {j : Fin m} {waits : Bool} (stands : client.closers j = .begun waits)
      {order : List RequestId} (walked : order.Perm client.registry.slots.keys) :
      Step codec requests client
        { client with
          registry := client.registry.close order
          closers := Function.update client.closers j (.registryClosed waits) }
  | passDrain {j : Fin m} {waits : Bool} (stands : client.closers j = .registryClosed waits)
      (drained : waits = true → client.lifecycle.drained = true) :
      Step codec requests client
        { client with closers := Function.update client.closers j .drained }
  | cancel {j : Fin m} (stands : client.closers j = .drained) :
      Step codec requests client
        { client with
          cancelled := true
          closers := Function.update client.closers j .finished }
  | mark (running : client.supervisor = .running) :
      Step codec requests client (markReconnecting client)
  | drain (marked : client.supervisor = .marked) {order : List RequestId}
      (walked : order.Perm client.registry.slots.keys) :
      Step codec requests client (drainRegistry client order)
  | reconnect (waiting : client.supervisor = .reconnecting) (inbox : String) :
      Step codec requests client (publishInbox client inbox)

section Steps

variable (codec : ReplyCodec) (requests : Fin n → Request) {client : Client n m}

theorem step_close {j : Fin m} {order : List RequestId} (enabled : canClose client j order = true) :
    Step codec requests client (closeStep client j order) := by
  unfold closeStep
  unfold canClose at enabled
  split
  · rename_i stands
    exact .beginClose stands
  · rename_i waits stands
    rw [stands] at enabled
    exact .closeRegistry stands (of_decide_eq_true enabled)
  · rename_i waits stands
    rw [stands] at enabled
    refine .passDrain stands ?_
    rintro rfl
    exact enabled
  · rename_i stands
    exact .cancel stands
  · rename_i stands
    rw [stands] at enabled
    cases enabled

theorem step_next {event : Event n m} (enabled : Enabled client event) :
    Step codec requests client (next codec requests client event) := by
  cases event with
  | advance c => exact .call c (move_advance codec requests)
  | publishFails c error => exact .call c (move_publishFails codec requests error)
  | deadlinePasses c => exact .call c (move_deadlinePasses codec requests enabled)
  | dropFuture c => exact .call c (move_dropFuture codec requests)
  | close j order => exact step_close codec requests enabled
  | deliver envelope authentication => exact .deliver envelope authentication
  | undecodable => exact .undecodable
  | mark => exact .mark enabled
  | drain order => exact .drain enabled.1 enabled.2
  | reconnect inbox => exact .reconnect enabled inbox

/-- A failure, a deadline or a drop: what can happen to a call while it awaits. -/
def Interrupts (c : Fin n) : Event n m → Prop
  | .publishFails d _ => d = c
  | .deadlinePasses d => d = c
  | .dropFuture d => d = c
  | _ => False

/-- Besides its own advance, a call is moved only from the two points where it awaits. -/
theorem calls_next {event : Event n m} (c : Fin n) :
    (next codec requests client event).calls c = client.calls c ∨ event = .advance c ∨
      Interrupts c event ∧ atAwait client c = true := by
  have interrupted : ∀ d phase, atAwait client d = true → Interrupts d event →
      (client.moveTo d phase).calls c = client.calls c ∨ event = .advance c ∨
        Interrupts c event ∧ atAwait client c = true := by
    intro d phase awaits cause
    by_cases here : c = d
    · subst here
      exact .inr (.inr ⟨cause, awaits⟩)
    · exact .inl (calls_moveTo_of_ne client here phase)
  cases event with
  | advance d =>
    by_cases here : c = d
    · exact .inr (.inl (by rw [here]))
    · exact .inl ((move_advance codec requests).elsewhere here)
  | publishFails d error =>
    simp only [next, publishFails]
    split
    · rename_i stands
      exact interrupted d _ (by simp [atAwait, stands]) rfl
    · exact .inl rfl
  | deadlinePasses d =>
    simp only [next, deadlinePasses]
    split
    · rename_i stands
      exact interrupted d _ (by simp [atAwait, stands]) rfl
    · rename_i stands
      exact interrupted d _ (by simp [atAwait, stands]) rfl
    · exact .inl rfl
  | dropFuture d =>
    simp only [next, dropFuture]
    split
    · rename_i stands
      exact interrupted d _ (by simp [atAwait, stands]) rfl
    · rename_i stands
      exact interrupted d _ (by simp [atAwait, stands]) rfl
    · exact .inl rfl
  | close j order =>
    simp only [next, closeStep]
    split <;> exact .inl rfl
  | _ => exact .inl rfl

/-- What every step preserves holds at the end of every run of the client. -/
theorem invariant_of_run {I : Client n m → Prop} {events : List (Event n m)} (start : I client)
    (step : ∀ before after, I before → Step codec requests before after → I after)
    (allowed : (machine codec requests).Allowed client events) :
    I ((machine codec requests).run client events) :=
  invariant_of_steps start
    (fun _ _ held enabled => step _ _ held (step_next codec requests enabled)) allowed

end Steps

end BusClientMoves
