import ProjectZero.Net.Tables

/-! # Packet buffers and the queues of the interfaces

`alloc_packet_buffer` and its inverse, and the two queues of every interface. The functions for the
receive queue and for the transmit queue differ in the state they give the buffer. -/

namespace ProjectZero.Net.Packets

open Lib.Layout Lib.Queues ProjectZero.Tables Net.Tables

/-! ### The pool -/

/-- The first free buffer is taken. -/
def allocPacketBuffer (state : PacketBufferState) (n : Stack) : Option BufIdx × Stack :=
  match (List.finRange 32).find? fun b => (n.buf b).state = .free with
  | none => (none, n)
  | some b => (some b, n.setBuf b { n.buf b with state := state, data := [], next := none })

def freePacketBuffer (b : BufIdx) (n : Stack) : Stack :=
  n.setBuf b { n.buf b with state := .free, data := [], next := none }

/-- `set_packet_payload`, whose result no caller looks at. -/
def setPacketPayload (b : BufIdx) (data : List Byte) (n : Stack) : Stack :=
  if data.length > packetBufferSize - packetHeadroom then n
  else n.setBuf b { n.buf b with data := data }

def getPacketData (n : Stack) (b : BufIdx) : Option (List Byte) :=
  if (n.buf b).state = .free then none else some (n.buf b).data

/-! ### Queues -/

/-- The buffer is the last one of the queue, which is given back; the link of the old last one leads
to it. With a head and no tail, the index of the tail is outside the table. -/
def link (b : BufIdx) (q : Queue BufIdx) (n : Stack) : Except Halt (Queue BufIdx × Stack) :=
  let n := n.setBuf b { n.buf b with next := none }
  match q.head, q.tail with
  | none, _ => .ok (pushQueue q b, n)
  | some _, none => .error .panic
  | some _, some t => .ok (pushQueue q b, n.setBuf t { n.buf t with next := some b })

def queuedState : Direction → PacketBufferState
  | .rx => .interfaceRxQueued
  | .tx => .driverTxRing

def setQueue (f : NetworkInterface) (d : Direction) (q : Queue BufIdx) : NetworkInterface :=
  { f with queue := update f.queue d q }

/-- A packet for a queue of an interface; `false` where it is refused. A packet for an interface that
is not up or has sixteen packets is dropped. -/
def enqueuePacket (d : Direction) (ifIdx bufIdx : ℕ) (n : Stack) : Except Halt (Bool × Stack) :=
  if h : ifIdx < 4 ∧ bufIdx < 32 then
    let i : IfIdx := ⟨ifIdx, h.1⟩
    let b : BufIdx := ⟨bufIdx, h.2⟩
    let f := n.iface i
    if f.state ≠ .up then .ok (false, freePacketBuffer b n)
    else if (f.queue d).count ≥ 16 then
      let dropped := { f with droppedPackets := min (f.droppedPackets + 1) (2 ^ 32 - 1) }
      .ok (false, freePacketBuffer b (n.setIface i dropped))
    else do
      let n := n.setBuf b { n.buf b with state := queuedState d, interfaceId := f.interfaceId }
      let (q, n) ← link b (f.queue d) n
      let total := f.packetsTotal d + 1
      if total = 2 ^ 32 then .error .panic
      else
        .ok (true, n.setIface i { setQueue f d q with
          packetsTotal := update f.packetsTotal d total })
  else .ok (false, n)

def enqueueRxPacket := enqueuePacket .rx

def enqueueTxPacket := enqueuePacket .tx

/-- The first packet of a queue of an interface. -/
def dequeuePacket (d : Direction) (ifIdx : ℕ) (n : Stack) : Option BufIdx × Stack :=
  if h : ifIdx < 4 then
    let i : IfIdx := ⟨ifIdx, h⟩
    let q := (n.iface i).queue d
    match q.head with
    | none => (none, n)
    | some b =>
      let n' := n.setIface i (setQueue (n.iface i) d (popQueue (fun c => (n.buf c).next) q))
      (some b, n'.setBuf b { n.buf b with next := none })
  else (none, n)

def dequeueRxPacket := dequeuePacket .rx

def dequeueTxPacket := dequeuePacket .tx

end ProjectZero.Net.Packets
