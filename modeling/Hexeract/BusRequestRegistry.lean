import Hexeract.LibraryMachines
import Hexeract.BusReplyAcceptance

/-! # The registry of pending requests

One slot per call in flight. A slot owns the sending half of a one-shot channel and the
pending reply of the call owns the receiving half; here a channel is the position of its
pending reply in the list of all registrations. Each operation runs under one lock and is
one transition. -/
namespace BusRequestRegistry

open LibraryMachines LibraryFramedBytes BusEnvelope BusReplyAcceptance

inductive SlotRetirement where
  | resolved
  | abandoned
  deriving DecidableEq, Repr

structure RetiredSlots where
  entries : AList fun _ : RequestId => SlotRetirement
  order : List RequestId
  capacity : ℕ

def RetiredSlots.new (capacity : ℕ) : RetiredSlots := ⟨∅, [], capacity⟩

/-- The oldest identities are forgotten until there is room for one more. -/
def evict (capacity : ℕ) (entries : AList fun _ : RequestId => SlotRetirement) :
    List RequestId → (AList fun _ : RequestId => SlotRetirement) × List RequestId
  | [] => (entries, [])
  | evicted :: rest =>
    if capacity ≤ (evicted :: rest).length then evict capacity (entries.erase evicted) rest
    else (entries, evicted :: rest)

def RetiredSlots.record (retired : RetiredSlots) (requestId : RequestId)
    (retirement : SlotRetirement) : RetiredSlots :=
  if retired.capacity = 0 then retired
  else if requestId ∈ retired.entries then
    { retired with entries := retired.entries.insert requestId retirement }
  else
    let (entries, order) := evict retired.capacity retired.entries retired.order
    { retired with
      entries := entries.insert requestId retirement
      order := order ++ [requestId] }

structure Slot where
  expectation : ReplyExpectation
  sender : ℕ
  lastRejection : Option ReplyRejection
  rejectedDeliveries : UInt32
  deriving DecidableEq

abbrev Slots := AList fun _ : RequestId => Slot

def saturatingSucc (n : UInt32) : UInt32 := if n = UInt32.ofNat (2 ^ 32 - 1) then n else n + 1

/-- A refused delivery is remembered by the slot it names. -/
def Slot.reject (slot : Slot) (rejection : ReplyRejection) : Slot :=
  { slot with
    lastRejection := some rejection
    rejectedDeliveries := saturatingSucc slot.rejectedDeliveries }

inductive Receiver where
  | empty
  | holds (envelope : Envelope) (authentication : ReplyAuthentication)
  | closed
  deriving DecidableEq

structure PendingReply where
  requestId : RequestId
  receiver : Receiver
  dropped : Bool
  deriving DecidableEq

structure ReplyCounters where
  undecodable : UInt64
  orphaned : UInt64
  unauthenticated : UInt64
  invalid : UInt64
  duplicate : UInt64
  late : UInt64
  deriving DecidableEq, Repr

def ReplyCounters.record (counters : ReplyCounters) : ReplyRejectionKind → ReplyCounters
  | .undecodable => { counters with undecodable := counters.undecodable + 1 }
  | .orphaned => { counters with orphaned := counters.orphaned + 1 }
  | .unauthenticated => { counters with unauthenticated := counters.unauthenticated + 1 }
  | .invalid => { counters with invalid := counters.invalid + 1 }
  | .duplicate => { counters with duplicate := counters.duplicate + 1 }
  | .late => { counters with late := counters.late + 1 }

structure RequestRegistry where
  slots : Slots
  retired : RetiredSlots
  closed : Bool
  counters : ReplyCounters
  maxInFlight : ℕ
  pending : List PendingReply

def RequestRegistry.new (maxInFlight : ℕ) : RequestRegistry where
  slots := ∅
  retired := .new maxInFlight
  closed := false
  counters := ⟨0, 0, 0, 0, 0, 0⟩
  maxInFlight := maxInFlight
  pending := []

inductive RegisterRejection where
  | atCapacity
  | closed
  | slotOccupied
  deriving DecidableEq, Repr

def readableRequestId (codec : ReplyCodec) (envelope : Envelope) : Option RequestId :=
  (envelope.header requestIdHeader).bind codec.uuid.parse

section Operations

variable (registry : RequestRegistry)

/-- The result carries the position of the new pending reply. -/
def RequestRegistry.register (requestId : RequestId) (expectation : ReplyExpectation) :
    Except RegisterRejection (RequestRegistry × ℕ) :=
  if registry.closed then .error .closed
  else if requestId ∈ registry.slots then .error .slotOccupied
  else if registry.maxInFlight ≤ registry.slots.entries.length then .error .atCapacity
  else .ok ({ registry with
    slots := registry.slots.insert requestId ⟨expectation, registry.pending.length, none, 0⟩
    pending := registry.pending ++ [⟨requestId, .empty, false⟩] }, registry.pending.length)

/-- A value sent to a receiver that was dropped is lost. -/
def send (pending : List PendingReply) (sender : ℕ) (envelope : Envelope)
    (authentication : ReplyAuthentication) : List PendingReply :=
  pending.modify sender fun reply =>
    if reply.dropped then reply else { reply with receiver := .holds envelope authentication }

/-- Dropping a sender that was not used closes its channel. -/
def dropSenders (pending : List PendingReply) (senders : List ℕ) : List PendingReply :=
  pending.mapIdx fun i reply => if i ∈ senders then { reply with receiver := .closed } else reply

def RequestRegistry.recordRejectionKind (kind : ReplyRejectionKind) : RequestRegistry :=
  { registry with counters := registry.counters.record kind }

def RequestRegistry.rejectSlot (requestId : RequestId) (rejection : ReplyRejection) :
    RequestRegistry :=
  match registry.slots.lookup requestId with
  | none => registry
  | some slot =>
    { registry with slots := registry.slots.insert requestId (slot.reject rejection) }

def RequestRegistry.missKind (requestId : RequestId) : ReplyRejectionKind :=
  match registry.retired.entries.lookup requestId with
  | some .resolved => .duplicate
  | some .abandoned => .late
  | none => .orphaned

def RequestRegistry.resolve (codec : ReplyCodec) (envelope : Envelope)
    (authentication : Except TransportRefusal ReplyAuthentication) : RequestRegistry :=
  match authentication with
  | .error refusal =>
    let rejection := refusal.toRejection
    let counted := registry.recordRejectionKind rejection.kind
    match readableRequestId codec envelope with
    | none => counted
    | some requestId => counted.rejectSlot requestId rejection
  | .ok authentication =>
    match readableRequestId codec envelope with
    | none => registry.recordRejectionKind .orphaned
    | some requestId =>
      match registry.slots.lookup requestId with
      | none => registry.recordRejectionKind (registry.missKind requestId)
      | some slot =>
        match acceptsReply codec slot.expectation requestId envelope with
        | .error rejection =>
          (registry.rejectSlot requestId rejection).recordRejectionKind rejection.kind
        | .ok () =>
          { registry with
            slots := registry.slots.erase requestId
            retired := registry.retired.record requestId .resolved
            pending := send registry.pending slot.sender envelope authentication }

/-- Every slot is cleared; the table is walked in an order of its own choosing. -/
def RequestRegistry.abandonEverySlot (order : List RequestId) : RequestRegistry :=
  { registry with
    slots := ∅
    retired := order.foldl (fun retired requestId => retired.record requestId .abandoned)
      registry.retired
    pending := dropSenders registry.pending (registry.slots.entries.map fun e => e.2.sender) }

def RequestRegistry.drain (order : List RequestId) : RequestRegistry :=
  registry.abandonEverySlot order

def RequestRegistry.close (order : List RequestId) : RequestRegistry :=
  ({ registry with closed := true }).abandonEverySlot order

def RequestRegistry.remove (requestId : RequestId) : RequestRegistry :=
  match registry.slots.lookup requestId with
  | none => registry
  | some slot =>
    { registry with
      slots := registry.slots.erase requestId
      retired := registry.retired.record requestId .abandoned
      pending := dropSenders registry.pending [slot.sender] }

/-- The guard removes whatever slot its identity names, then its receiver is gone. -/
def RequestRegistry.dropPending (index : ℕ) : RequestRegistry :=
  match registry.pending[index]? with
  | none => registry
  | some reply =>
    let removed := registry.remove reply.requestId
    { removed with pending := removed.pending.modify index fun reply =>
        { reply with dropped := true } }

end Operations

def receiverAt (registry : RequestRegistry) (index : ℕ) : Option Receiver :=
  (registry.pending[index]?).map PendingReply.receiver

/-! ## Runs of one registry -/

inductive Event where
  | register (requestId : RequestId) (expectation : ReplyExpectation)
  | resolve (envelope : Envelope) (authentication : Except TransportRefusal ReplyAuthentication)
  | recordUndecodable
  | dropPending (index : ℕ)
  | drain (order : List RequestId)
  | close (order : List RequestId)

def Enabled (registry : RequestRegistry) : Event → Prop
  | .dropPending index => (registry.pending[index]?).any (fun reply => !reply.dropped) = true
  | .drain order => order.Perm registry.slots.keys
  | .close order => order.Perm registry.slots.keys
  | _ => True

instance (registry : RequestRegistry) : (event : Event) → Decidable (Enabled registry event)
  | .dropPending _ => inferInstanceAs (Decidable (_ = true))
  | .drain order => inferInstanceAs (Decidable (order.Perm _))
  | .close order => inferInstanceAs (Decidable (order.Perm _))
  | .register _ _ => isTrue trivial
  | .resolve _ _ => isTrue trivial
  | .recordUndecodable => isTrue trivial

def next (codec : ReplyCodec) (registry : RequestRegistry) : Event → RequestRegistry
  | .register requestId expectation =>
    match registry.register requestId expectation with
    | .ok (registered, _) => registered
    | .error _ => registry
  | .resolve envelope authentication => registry.resolve codec envelope authentication
  | .recordUndecodable => registry.recordRejectionKind .undecodable
  | .dropPending index => registry.dropPending index
  | .drain order => registry.drain order
  | .close order => registry.close order

def machine (codec : ReplyCodec) : Machine RequestRegistry Event := ⟨Enabled, next codec⟩

end BusRequestRegistry
