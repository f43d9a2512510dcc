import ProjectZero.Ipc.Handle

/-! # Channels

`channel_create`, `channel_send`, `channel_receive` and `channel_close`, called by the thread `t`. A
send or receive holds `KERNEL_OBJECT_TABLE_LOCK` from its start or its wake-up until it returns or
goes to sleep; each such stretch is one function here. What a sleeping call will go on with is a
`Pending`: the local variables that live across the sleep. -/

namespace ProjectZero.Ipc.Channel

open Tables Cap.Ops Object Ipc.Handle

variable (k : Kernel)

def resolveCurrentProcessSlot (pid : ℕ) : Except IpcError PSlot :=
  match (List.finRange 16).find? fun p => (k.process p).occupied && (k.process p).id = pid with
  | none => .error .invalidProcess
  | some p => .ok p

/-! ### Creation and close -/

def channelRights : Rights :=
  HandleRights.read ||| HandleRights.write ||| HandleRights.transfer ||| HandleRights.duplicate |||
    HandleRights.signal ||| HandleRights.wait ||| CapRights.channelSend |||
    CapRights.channelReceive ||| CapRights.duplicate ||| CapRights.transfer ||| CapRights.revoke |||
    CapRights.close ||| CapRights.inspect ||| CapRights.audit

/-- No object of the type points to the pool entry `c`. -/
def poolFree (objType : KernelObjectType) (c : ℕ) : Bool :=
  (List.finRange 256).all fun i =>
    !((k.object i).occupied && (k.object i).objType = objType && (k.object i).poolIndex = c)

/-- The first free entry of `CHANNEL_TABLE`. -/
def findChannel : Option ℕ :=
  (List.range 32).find? fun c =>
    (k.channel c).endpoint0.handleRefs = 0 && (k.channel c).endpoint1.handleRefs = 0 &&
      !(k.channel c).endpoint0.isClosed && !(k.channel c).endpoint1.isClosed &&
      poolFree k .channel c

/-- A channel with one handle for each endpoint. -/
def newChannel : Channel :=
  { Channel.empty with
    endpoint0 := { ChannelEndpointData.empty with handleRefs := 1 }
    endpoint1 := { ChannelEndpointData.empty with handleRefs := 1 } }

/-- The two handles of the new channel object `i`; what was made is taken back on an error. -/
def channelHandles (p : PSlot) (i : ObjIdx) :
    Except Halt (Except IpcError (Handle × Handle) × Kernel) := do
  let (r0, k) ← allocateHandleEntryLocked k p i channelRights 0
  match r0 with
  | .error e => do
    let k ← freeObjectSlotLocked k i
    fail e k
  | .ok h0 => do
    let (r1, k) ← allocateHandleEntryLocked k p i channelRights 1
    match r1 with
    | .error e => do
      let (_, k) ← closeHandleLocked k p h0
      let k ← freeObjectSlotLocked k i
      fail e k
    | .ok h1 => done (h0, h1) k

variable (t : TSlot)

def channelCreate :
    Except Halt (Except IpcError (Handle × Handle) × Kernel) :=
  match resolveCurrentProcessSlot k (k.thread t).processId with
  | .error e => fail e k
  | .ok p =>
    match findChannel k with
    | none => fail .channelTableFull k
    | some c =>
      match allocateObjectSlotLocked k .channel c (k.thread t).processId with
      | (.error e, k) => fail e k
      | (.ok i, k) => channelHandles (k.setChannel c newChannel) p i

/-- The object `o` can be made in the slot `i`: the slot is free, and so is its pool entry. -/
structure NewObject (k : Kernel) (type : KernelObjectType) (i : ObjIdx) (o : KernelObjectSlot) :
    Prop where
  vacant : (k.object i).occupied = false
  occupied : o.occupied
  objType : o.objType = type
  unreferenced : o.header.refCount = 0
  unused : poolFree k type o.poolIndex

lemma channelCreate_cases : (∃ e n, channelCreate k t = fail e { k with nextObjectId := n }) ∨
    ∃ p i o n, NewObject k .channel i o ∧ channelCreate k t = channelHandles { k with
      nextObjectId := n, object := update k.object i o
      channel := update k.channel o.poolIndex newChannel } p i := by
  unfold channelCreate
  iterate 2
    split
    · exact .inl ⟨_, k.nextObjectId, rfl⟩
  rename_i p _ _ c hc
  have hfind := List.find?_some hc
  simp only [Bool.and_eq_true] at hfind
  rcases allocateObjectSlot_cases k .channel c (k.thread t).processId with
    ⟨e, n, he⟩ | ⟨i, o, n, hi, hocc, hot, rfl, hor, he⟩
  · exact .inl ⟨e, n, by rw [he]⟩
  · exact .inr ⟨p, i, o, n, ⟨hi, hocc, hot, hor, hfind.2⟩, by rw [he]; rfl⟩

def channelClose (h : Handle) : Except Halt (Except IpcError Unit × Kernel) :=
  match resolveCurrentProcessSlot k (k.thread t).processId with
  | .error e => fail e k
  | .ok p => do
    let (r, k) ← closeHandleLocked k p h
    match r with
    | .error e => fail e k
    | .ok (i, endpoint) =>
      if (k.object i).objType ≠ .channel then .error .panic
      else do
        let k ← releaseEndpoint k i endpoint
        done () k

/-! ### Wait queues -/

/-- `push_priority_locked`: behind the waiters of the same or a higher priority. -/
def pushPriority (priority : TSlot → ℕ) (t : TSlot) : List TSlot → List TSlot
  | [] => [t]
  | u :: queue => if priority u < priority t then t :: u :: queue
                  else u :: pushPriority priority t queue

/-- The state change of `prepare_block_locked`. The choice of the next thread is the scheduler's. -/
def prepareBlockLocked : Except Halt Kernel :=
  if (k.thread t).state = .running then .ok (setThreadState k t .blocked) else .error .panic

/-- The two directions of a channel, seen from an endpoint. -/
inductive Direction
  | send | receive
  deriving DecidableEq

/-- The queue of the endpoint where its senders, or its receivers, wait. -/
def waiters (e : ChannelEndpointData) : Direction → List TSlot
  | .send => e.waitersTx
  | .receive => e.waitersRx

def setWaiters (e : ChannelEndpointData) (queue : List TSlot) : Direction → ChannelEndpointData
  | .send => { e with waitersTx := queue }
  | .receive => { e with waitersRx := queue }

/-- The ring into which the endpoint sends, or from which it receives. -/
def ring (ch : Channel) (endpoint : ℕ) : Direction → ChannelRing
  | .send => if endpoint = 0 then ch.ring0to1 else ch.ring1to0
  | .receive => if endpoint = 0 then ch.ring1to0 else ch.ring0to1

def setRing (ch : Channel) (endpoint : ℕ) (r : ChannelRing) : Direction → Channel
  | .send => if endpoint = 0 then { ch with ring0to1 := r } else { ch with ring1to0 := r }
  | .receive => if endpoint = 0 then { ch with ring1to0 := r } else { ch with ring0to1 := r }

/-- The other direction: a send wakes a receiver of the peer, a receive a sender. -/
def Direction.opposite : Direction → Direction
  | .send => .receive
  | .receive => .send

/-- `pop_highest_locked` on a queue of the peer, and the wake-up of that thread. -/
def wakePeer (c endpoint : ℕ) (d : Direction) : Except Halt Kernel :=
  let ch := k.channel c
  match waiters (ch.peer endpoint) d with
  | [] => .ok k
  | u :: queue =>
    let ch := ch.setEndpoints endpoint (ch.mine endpoint) (setWaiters (ch.peer endpoint) queue d)
    wakeThreadLocked (k.setChannel c ch) u

/-- The thread goes to sleep in a queue of its own endpoint. -/
def sleep (c endpoint : ℕ) (d : Direction) : Except Halt Kernel := do
  let k ← prepareBlockLocked k t
  let ch := k.channel c
  let queue := pushPriority (fun u => (k.thread u).priority) t (waiters (ch.mine endpoint) d)
  .ok (k.setChannel c
    (ch.setEndpoints endpoint (setWaiters (ch.mine endpoint) queue d) (ch.peer endpoint)))

/-! ### Send and receive -/

/-- What a call does: a send of a message, or a receive. -/
inductive Action
  | send (msg : IpcMessage)
  | receive
  deriving DecidableEq

def Action.direction : Action → Direction
  | .send _ => .send
  | .receive => .receive

/-- The rights of which a call needs one. -/
def Action.rights : Action → Rights
  | .send _ => HandleRights.write ||| CapRights.channelSend
  | .receive => HandleRights.read ||| CapRights.channelReceive

/-- A call past its checks: the process and the handle it was made with, the object, the channel and
the endpoint they resolved to. -/
structure Pending where
  process : PSlot
  handle : Handle
  object : ObjIdx
  channel : ℕ
  endpoint : ℕ
  action : Action
  blocking : Bool

/-- How a stretch of a call ends: with an error, with the message of a receive or none for a send, or
asleep. -/
inductive Progress
  | failed (e : IpcError)
  | completed (c : Pending) (msg : Option IpcMessage)
  | asleep (c : Pending)

variable (c : Pending)

/-- The call drops its pin and returns. -/
def finish (r : Progress) :
    Except Halt (Progress × Kernel) := do
  let k ← releaseInFlightPinLocked k t c.object
  .ok (r, k)

/-- The ring after the action, with the message a receive gets; `none` when it has to wait. -/
def transfer (r : ChannelRing) : Action → Option (Option IpcMessage × ChannelRing)
  | .send msg => (r.push msg).map (none, ·)
  | .receive => r.pop.map fun (msg, r) => (some msg, r)

/-- The error of a closed channel, the own endpoint first. -/
def closure (ch : Channel) (endpoint : ℕ) : Option IpcError :=
  if (ch.mine endpoint).isClosed then some .endpointClosed
  else if (ch.mine endpoint).peerClosed || (ch.peer endpoint).isClosed then some .peerClosed
  else none

/-- The action is done in the ring, and a thread of the peer wakes. -/
def complete (msg : Option IpcMessage) (r : ChannelRing) :
    Except Halt (Progress × Kernel) := do
  let d := c.action.direction
  let k := k.setChannel c.channel (setRing (k.channel c.channel) c.endpoint r d)
  let k ← wakePeer k c.channel c.endpoint d.opposite
  finish k t c (.completed c msg)

/-- The end of a round that did not get through. -/
def wait : Except Halt (Progress × Kernel) :=
  if c.blocking = false then finish k t c (.failed .wouldBlock)
  else do
    let k ← sleep k t c.channel c.endpoint c.action.direction
    .ok (.asleep c, k)

/-- One round of the loop. A send looks at the closed flags before the ring, a receive after it. -/
def callRound : Except Halt (Progress × Kernel) :=
  let ch := k.channel c.channel
  let step := transfer (ring ch c.endpoint c.action.direction) c.action
  match c.action, closure ch c.endpoint, step with
  | .send _, some e, _ => finish k t c (.failed e)
  | .send _, none, some (msg, r) => complete k t c msg r
  | .send _, none, none => wait k t c
  | .receive, _, some (msg, r) => complete k t c msg r
  | .receive, some e, none => finish k t c (.failed e)
  | .receive, none, none => wait k t c

/-- The checks after a wake-up, before the next round: a receive goes on with a closed peer while
there are messages. -/
def resume : Except Halt (Progress × Kernel) :=
  let ch := k.channel c.channel
  match closure ch c.endpoint, c.action with
  | some .peerClosed, .receive =>
    if (ring ch c.endpoint .receive).isEmpty then finish k t c (.failed .peerClosed)
    else callRound k t c
  | some e, _ => finish k t c (.failed e)
  | none, _ => callRound k t c

/-- The pin of a call in flight. -/
def pin (i : ObjIdx) : Kernel :=
  let header := (k.object i).header
  let o := { k.object i with header := { header with inFlightOpRefs := header.inFlightOpRefs + 1 } }
  { k with
    threadIpc := update k.threadIpc t { occupied := true, objectIndex := i }
    object := update k.object i o }

/-- `channel_send` and `channel_receive` up to the first sleep. -/
def channelCall (h : Handle) (action : Action) (blocking : Bool) :
    Except Halt (Progress × Kernel) :=
  match resolveCurrentProcessSlot k (k.thread t).processId with
  | .error e => .ok (.failed e, k)
  | .ok p =>
    match validateHandleLocked k p h 0 with
    | .error e => .ok (.failed e, k)
    | .ok (i, endpoint, rights) =>
      if rights &&& action.rights = 0 then .ok (.failed .permissionDenied, k)
      else if (k.object i).objType ≠ .channel then .error .panic
      else if (k.threadIpc t).occupied then .ok (.failed .concurrentOperation, k)
      else
        callRound (pin k t i) t
          { process := p, handle := h, object := i, channel := (k.object i).poolIndex,
            endpoint := endpoint, action := action, blocking := blocking }

def channelSend (h : Handle) (msg : IpcMessage) (blocking : Bool) :
    Except Halt (Progress × Kernel) :=
  channelCall k t h (.send msg) blocking

def channelReceive (h : Handle) (blocking : Bool) :
    Except Halt (Progress × Kernel) :=
  channelCall k t h .receive blocking

end ProjectZero.Ipc.Channel
