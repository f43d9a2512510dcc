import ProjectZero.Ipc.Object
import ProjectZero.Net.Packets
import ProjectZero.Net.Ports
import ProjectZero.Net.Transport

/-! # Sockets

The calls on sockets. Each of them runs under `SOCKET_LOCK`, from the check of its arguments to its
end or to the place where the thread parks; a call that parks goes on with another round of its loop
when its thread is awake again. Where an error of `bind_port` or of a header leaves a call by `?`, the
lock stays taken. -/

namespace ProjectZero.Net.Socket

open Lib.Layout Lib.Queues ProjectZero.Tables Ipc.Object Net.Tables Packets Ports Transport

/-- The tables of the kernel with those of the network. -/
structure Host where
  kernel : Kernel
  net : Stack

/-! ### Allocation -/

/-- The protocol fits the type. -/
def protocolAllowed : SocketType → ℕ → Bool
  | .udp, protocol => protocol = 0 || protocol = 17
  | .tcp, protocol => protocol = 0 || protocol = 6
  | .raw, _ => true
  | .unset, _ => false

/-- A socket as `alloc_socket` fills its slot. -/
def newSocket (sockType : SocketType) (socketId ownerPid : ℕ) : SocketSlot :=
  { SocketSlot.empty with
    occupied := true
    sockType := sockType
    state := if sockType = .tcp then .closed else .udpUnbound
    socketId := socketId
    ownerPid := ownerPid }

def freeSlot (n : Stack) : Option SockIdx :=
  (List.finRange 16).find? fun s => !(n.socket s).occupied

/-- The slot is filled, and its wait queue is a new one. -/
def fillSlot (n : Stack) (s : SockIdx) (sock : SocketSlot) : Stack :=
  { (n.setSocket s sock).setTcp s .empty with waiters := update n.waiters s [] }

def allocSocket (sockType : SocketType) (protocol ownerPid : ℕ) (h : Host) :
    Except Halt (Except SyscallError (SockIdx × ℕ) × Host) :=
  if protocolAllowed sockType protocol = false then .ok (.error .invalidArgument, h)
  else
    let socketId := h.net.nextSocketId
    let n := { h.net with nextSocketId := socketId + 1 }
    locked n <|
      match freeSlot n with
      | none => .ok (.error .outOfMemory, { h with net := n })
      | some s =>
        let sock := newSocket sockType socketId ownerPid
        let n := fillSlot n s sock
        match allocateObjectSlotLocked h.kernel .socket s ownerPid with
        | (.error _, k) =>
          .ok (.error .outOfMemory, { kernel := k, net := n.setSocket s .empty })
        | (.ok i, k) =>
          .ok (.ok (s, socketId),
            { kernel := k, net := n.setSocket s { sock with kernelObject := some i } })

/-! ### Release -/

/-- The loop that frees the buffers of a chain. A freed buffer has no link, so that the loop frees no
buffer a third time: the first argument is enough. -/
def drainBuffers : ℕ → Option BufIdx → Stack → Stack
  | 0, _, n => n
  | _ + 1, none, n => n
  | k + 1, some b, n => drainBuffers k (n.buf b).next (freePacketBuffer b n)

def maxPacketBuffers : ℕ := 32

/-- The packets of the socket, its ports and its object are given back, the threads that wait for it
are woken, and its slot is empty. -/
def releaseSocket (h : Host) (s : SockIdx) : Except Halt Host := do
  let sock := h.net.socket s
  let n := drainBuffers (maxPacketBuffers + 1) sock.rxQueue.head h.net
  let n := unbindAllBySocket sock.socketId n
  let k ← match sock.kernelObject with
    | none => .ok h.kernel
    | some i => freeObjectSlotLocked h.kernel i
  .ok { kernel := k, net := ((n.wakeAll s).setSocket s .empty).setTcp s .empty }

variable (slot : ℕ)

def freeSocket (h : Host) : Except Halt (Except SyscallError Unit × Host) :=
  if hs : slot < 16 then
    locked h.net <|
      if (h.net.socket ⟨slot, hs⟩).occupied = false then .ok (.error .invalidArgument, h)
      else do
        let h ← releaseSocket h ⟨slot, hs⟩
        .ok (.ok (), h)
  else .ok (.error .invalidArgument, h)

/-- The socket of the slot is released if it is one of the process. -/
def cleanupSlot (pid : ℕ) (h : Host) (s : SockIdx) : Except Halt Host :=
  if (h.net.socket s).occupied ∧ (h.net.socket s).ownerPid = pid then releaseSocket h s else .ok h

def cleanupProcessSockets (pid : ℕ) (h : Host) : Except Halt Host :=
  locked h.net do
    let h ← (List.finRange 16).foldlM (cleanupSlot pid) h
    .ok { h with net := unbindAllByPid pid h.net }

/-! ### Addresses -/

/-- The number of the protocol that the ports of a socket are bound for. -/
def protocolOf : SocketType → Option ℕ
  | .udp => some 17
  | .tcp => some 6
  | .raw => some 255
  | .unset => none

def bindSocket (ip : Ip) (port : Port) (hasNetConfig : Bool) (n : Stack) :
    Outcome Port :=
  if hs : slot < 16 then
    let s : SockIdx := ⟨slot, hs⟩
    locked n <|
      if (n.socket s).occupied = false then fail .invalidArgument n
      else
        match protocolOf (n.socket s).sockType with
        | none => fail .invalidArgument n
        | some proto =>
          match bindPort proto ip port (n.socket s).socketId (n.socket s).ownerPid hasNetConfig n with
          | (.error e, n) => failLocked e n
          | (.ok p, n) =>
            let sock := { n.socket s with localIp := ip, localPort := p }
            done p (n.setSocket s
              (if sock.sockType = .udp then { sock with state := .udpBound } else sock))
  else fail .invalidArgument n

/-- A socket without a port gets an ephemeral one for the protocol and the address. -/
def autoBind (proto : ℕ) (ip : Ip) (s : SockIdx) (n : Stack) : Except SyscallError Unit × Stack :=
  let sock := n.socket s
  if sock.localPort = 0 then
    match bindPort proto ip 0 sock.socketId sock.ownerPid false n with
    | (.error e, n) => (.error e, n)
    | (.ok p, n) => (.ok (), n.setSocket s { sock with localPort := p })
  else (.ok (), n)

def listenSocket (backlog : ℕ) (n : Stack) : Outcome Unit :=
  if hs : slot < 16 then
    let s : SockIdx := ⟨slot, hs⟩
    locked n <|
      if (n.socket s).occupied = false ∨ (n.socket s).sockType ≠ .tcp then fail .invalidArgument n
      else
        match autoBind 6 (n.socket s).localIp s n with
        | (.error e, n) => failLocked e n
        | (.ok (), n) =>
          done () (n.setSocket s { n.socket s with
            state := .listen, rxQueueLimit := if backlog > 0 then backlog else 8 })
  else fail .invalidArgument n

def isLoopback (ip : Ip) : Bool := ip = loopbackIp || ip &&& 0xFF000000#32 = 0x7F000000#32

/-! ### Connection -/

/-- What a call comes back with, if it does not park. -/
inductive Answer (α : Type)
  | returned (r : Except SyscallError α)
  | parked

abbrev Round (α : Type) := Except Halt (Answer α × Stack)

def ret {α : Type} (r : Except SyscallError α) (n : Stack) : Round α := .ok (.returned r, n)

variable (s : SockIdx)

/-- The connection is refused. -/
def refuse (n : Stack) : Round Unit :=
  ret (.error .connectionRefused)
    (n.setSocket s { n.socket s with state := .closed, error := -21 })

/-- A connection to a listener on the machine itself: the count of its queue goes up, and its waiters
are woken. -/
def connectLoopback (remoteIp : Ip) (remotePort : Port) (n : Stack) : Round Unit :=
  match lookupSocket n 6 remoteIp remotePort with
  | none => refuse s n
  | some target =>
    match (List.finRange 16).find? fun i =>
        (n.socket i).occupied && (n.socket i).socketId = target && (n.socket i).state = .listen with
    | none => refuse s n
    | some i =>
      let sock := n.socket i
      let queue := { sock.rxQueue with count := min (sock.rxQueue.count + 1) 65535 }
      let n := (n.setSocket i { sock with rxQueue := queue }).wakeAll i
      ret (.ok ()) ((n.setSocket s { n.socket s with state := .established }).setTcp s
        { n.tcp s with rcvNxt := 1001 })

/-- One round of the loop of a blocking `connect_socket`. -/
def connectRound (n : Stack) : Round Unit :=
  let sock := n.socket s
  if sock.state = .established then ret (.ok ()) n
  else if sock.state = .closed ∨ sock.error ≠ 0 then
    ret (.error (if sock.error = -21 then .connectionRefused
      else if sock.error = -28 then .timedOut else .networkUnreachable)) n
  else .ok (.parked, n)

/-- `generate_isn` at tick zero. -/
def initialSequence (socketId : ℕ) : BitVec 32 := BitVec.ofNat 32 socketId

def connectTcp (remoteIp : Ip) (remotePort : Port) (nonBlocking : Bool) (n : Stack) :
    Round Unit :=
  match lookupRoute n remoteIp with
  | none => ret (.error .networkUnreachable) n
  | some (ifId, _) =>
    let isn := initialSequence (n.socket s).socketId
    let n := (n.setSocket s { n.socket s with boundInterface := ifId, state := .synSent }).setTcp s
      { n.tcp s with sndNxt := isn + 1, sndUna := isn }
    if isLoopback remoteIp then connectLoopback s remoteIp remotePort n
    else if nonBlocking then ret (.error .wouldBlock) n
    else connectRound s n

def connectSocket (remoteIp : Ip) (remotePort : Port) (nonBlocking : Bool) (n : Stack) :
    Round Unit :=
  if hs : slot < 16 ∧ remoteIp ≠ 0 ∧ remotePort ≠ 0 then
    let s : SockIdx := ⟨slot, hs.1⟩
    locked n <|
      if (n.socket s).occupied = false then ret (.error .invalidArgument) n
      else
        match autoBind (if (n.socket s).sockType = .tcp then 6 else 17) 0 s n with
        | (.error e, n) => ret (.error e) { n with socketLock := true }
        | (.ok (), n) =>
          let n := n.setSocket s { n.socket s with remoteIp := remoteIp, remotePort := remotePort }
          match (n.socket s).sockType with
          | .udp => ret (.ok ()) (n.setSocket s { n.socket s with state := .udpConnected })
          | .tcp => connectTcp s remoteIp remotePort nonBlocking n
          | _ => ret (.ok ()) n
  else ret (.error .addressNotAvailable) n

/-! ### Sending -/

/-- The error of a socket that has failed. -/
def socketError (err : ℤ) : SyscallError := if err = -19 then .networkDown else .connectionReset

/-- The bytes that are sent for the payload. Sending over TCP moves the sequence number on. -/
def segment (payload : List Byte) (n : Stack) :
    Except SyscallError (List Byte) × Stack :=
  let sock := n.socket s
  match sock.sockType with
  | .udp =>
    (writeUdpHeader sock.localIp sock.remoteIp sock.localPort sock.remotePort payload, n)
  | .tcp =>
    match writeTcpHeader sock.localIp sock.remoteIp sock.localPort sock.remotePort (n.tcp s).sndNxt
        (n.tcp s).rcvNxt (tcpAck ||| tcpPsh) tcpDefaultWindow payload with
    | .error e => (.error e, n)
    | .ok bytes => (.ok bytes, n.setTcp s { n.tcp s with
        sndNxt := (n.tcp s).sndNxt + BitVec.ofNat 32 payload.length })
  | _ => (.ok payload, n)

/-- The socket on the machine itself that a packet is for, if its queue has room. -/
def localTarget (sock : SocketSlot) (n : Stack) : Option SockIdx :=
  if isLoopback sock.remoteIp then
    match lookupSocket n (if sock.sockType = .tcp then 6 else 17) sock.remoteIp sock.remotePort with
    | none => none
    | some target => (List.finRange 16).find? fun i =>
        (n.socket i).occupied && (n.socket i).socketId = target &&
          (n.socket i).rxQueue.count < (n.socket i).rxQueueLimit
  else none

/-- The packet goes to the end of the queue of the socket, and the threads that wait for it are
woken. -/
def deliver (b : BufIdx) (i : SockIdx) (n : Stack) : Except Halt Stack := do
  let n := n.setBuf b { n.buf b with state := .socketQueued }
  let (q, n) ← link b (n.socket i).rxQueue n
  .ok ((n.setSocket i { n.socket i with rxQueue := q }).wakeAll i)

/-- The packet leaves for the socket on the machine, or else for the queue of an interface. -/
def dispatchPacket (b : BufIdx) (n : Stack) : Except Halt Stack :=
  match localTarget (n.socket s) n with
  | some i => deliver b i n
  | none => do
    let ifId := match lookupRoute n (n.socket s).remoteIp with
      | some (ifId, _) => ifId
      | none => 1
    let (_, n) ← enqueueTxPacket (ifId - 1) b n
    .ok n

/-- The largest payload that `send_socket` looks at. -/
def maxPayload : ℕ :=
  packetBufferSize - packetHeadroom - ethernetHeaderLen - ipv4HeaderLen - udpHeaderLen

def sendSocket (payload : List Byte) (nonBlocking : Bool) (n : Stack) : Outcome ℕ :=
  if hs : slot < 16 then
    let s : SockIdx := ⟨slot, hs⟩
    if payload.length > maxPayload then fail .messageTooLarge n
    else locked n <|
      let sock := n.socket s
      if sock.occupied = false then fail .invalidArgument n
      else if sock.error ≠ 0 then fail (socketError sock.error) n
      else if sock.sockType = .tcp ∧ sock.state ≠ .established then fail .notConnected n
      else if sock.sockType = .udp ∧ (sock.remoteIp = 0 ∨ sock.remotePort = 0) then
        fail .addressNotAvailable n
      else
        match allocPacketBuffer .socketTxQueued n with
        | (none, n) => fail (if nonBlocking then .wouldBlock else .outOfMemory) n
        | (some b, n) =>
          match segment s payload n with
          | (.error e, n) => failLocked e n
          | (.ok bytes, n) => do
            let n ← dispatchPacket s b (setPacketPayload b bytes n)
            done payload.length n
  else fail .invalidArgument n

/-! ### Receiving -/

/-- What of a packet is for the receiver: the payload, if the header is accepted, and all of it
otherwise. -/
def strip (sock : SocketSlot) (data : List Byte) : List Byte :=
  match sock.sockType with
  | .udp =>
    match parseUdpHeader data sock.remoteIp sock.localIp with
    | some (_, _, payload) => payload
    | none => data
  | .tcp =>
    match parseTcpHeader data sock.remoteIp sock.localIp with
    | some payload => payload
    | none => data
  | _ => data

/-- The first packet of the queue is taken out; the bytes are those that fit. A count above zero with
no head leads outside the table. -/
def takePacket (outLen : ℕ) (n : Stack) : Round (List Byte) :=
  let sock := n.socket s
  match sock.rxQueue.head with
  | none => .error .panic
  | some b =>
    let bytes := match getPacketData n b with
      | some data => (strip sock data).take outLen
      | none => []
    let queue := popQueue (fun c => (n.buf c).next) sock.rxQueue
    ret (.ok bytes) (freePacketBuffer b (n.setSocket s { sock with rxQueue := queue }))

/-- One round of the loop of `recv_socket`. -/
def recvRound (outLen : ℕ) (nonBlocking : Bool) (n : Stack) : Round (List Byte) :=
  locked n <|
    let sock := n.socket s
    if sock.occupied = false then ret (.error .invalidArgument) n
    else if sock.error ≠ 0 then ret (.error (socketError sock.error)) n
    else if sock.rxQueue.count > 0 then takePacket s outLen n
    else if sock.state = .peerClosed then ret (.ok []) n
    else if sock.state = .closed then ret (.error .notConnected) n
    else if nonBlocking then ret (.error .wouldBlock) n
    else .ok (.parked, n)

/-- `recv_socket`, up to the place where it parks for the first time. -/
def recvSocket (outLen : ℕ) (nonBlocking : Bool) (n : Stack) : Round (List Byte) :=
  if hs : slot < 16 then recvRound ⟨slot, hs⟩ outLen nonBlocking n
  else ret (.error .invalidArgument) n

end ProjectZero.Net.Socket
