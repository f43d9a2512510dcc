import ProjectZero.Ipc.Channel
import ProjectZero.Net.Socket

/-! # Network system calls

The dispatchers of the calls on the network. Each of them finds the process of the caller, checks the
handle for the right it needs and goes on with the pool index of the object; none but `net_close` looks
at the type of the object. `net_config` takes no handle. The memory of the caller is checked before a
send or a receive; what this check says is an argument. -/

namespace ProjectZero.Net.Calls

open Lib.Layout ProjectZero.Tables Ipc.Handle Ipc.Channel Net.Tables Socket

/-! ### Rights -/

/-- The rights of the handle that `net_socket` returns. -/
def socketRights (sockType : SocketType) : Rights :=
  let rights := CapRights.inspect ||| CapRights.close ||| CapRights.duplicate ||| CapRights.netBind |||
    CapRights.netListen ||| CapRights.netAccept ||| CapRights.netConnect ||| CapRights.netSend |||
    CapRights.netRecv ||| CapRights.netRoute ||| CapRights.netConfig
  if sockType = .raw then rights ||| CapRights.netRaw else rights

def ipcToSyscallErr : IpcError → SyscallError
  | .invalidHandle | .badHandleGeneration | .invalidCapability => .badHandle
  | .permissionDenied | .rightsAmplificationRejected | .notCapabilityOwner => .permissionDenied
  | .objectTableFull | .channelTableFull | .shmTableFull | .mappingTableFull | .handleTableFull
  | .pmmExhausted => .outOfMemory
  | .concurrentOperation => .resourceBusy
  | .invalidProcess | .invalidEndpoint => .notFound
  | .wouldBlock => .wouldBlock
  | .peerClosed | .endpointClosed => .peerClosed
  | .badMessageSize | .badAlignment | .invalidAddress => .invalidArgument
  | .vmmError => .badAddress
  | _ => .invalidArgument

/-! ### Dispatch -/

/-- What a call returns, unless it parks, and the machine it leaves. -/
abbrev Reply := Except Halt (Answer ℕ × Host)

def reply (r : Except SyscallError ℕ) (h : Host) : Reply := .ok (.returned r, h)

def replyIpc (e : IpcError) (h : Host) : Reply := reply (.error (ipcToSyscallErr e)) h

/-- The pool index and the rights of the handle `hd` of the process `pid`, if it has the right. -/
def lookupHandle (h : Host) (pid : ℕ) (hd : Handle) (right : Rights) : Except IpcError (ℕ × Rights) :=
  match resolveCurrentProcessSlot h.kernel pid with
  | .error e => .error e
  | .ok p =>
    match validateHandleLocked h.kernel p hd right with
    | .error e => .error e
    | .ok (i, _, rights) => .ok ((h.kernel.object i).poolIndex, rights)

/-- A call on the socket of a handle. -/
def onSocket {α : Type} (h : Host) (pid : ℕ) (hd : Handle) (right : Rights) (value : α → ℕ)
    (call : ℕ → Rights → Round α) : Reply :=
  match lookupHandle h pid hd right with
  | .error e => replyIpc e h
  | .ok (slot, rights) => do
    match ← call slot rights with
    | (.returned (.ok a), n) => .ok (.returned (.ok (value a)), { h with net := n })
    | (.returned (.error e), n) => .ok (.returned (.error e), { h with net := n })
    | (.parked, n) => .ok (.parked, { h with net := n })

def atOnce {α : Type} : Outcome α → Round α
  | .error e => .error e
  | .ok (r, n) => ret r n

def socketTypeOf : ℕ → Option SocketType
  | 1 => some .udp
  | 2 => some .tcp
  | 3 => some .raw
  | _ => none

def dispatchNetSocket (pid sockTypeVal protocol : ℕ) (h : Host) : Reply :=
  match socketTypeOf sockTypeVal with
  | none => reply (.error .invalidArgument) h
  | some sockType =>
    match resolveCurrentProcessSlot h.kernel pid with
    | .error e => replyIpc e h
    | .ok p => do
      match ← allocSocket sockType protocol pid h with
      | (.error e, h) => reply (.error e) h
      | (.ok (s, _), h) =>
        match (h.net.socket s).kernelObject with
        | none => .error .panic
        | some i => do
          match ← allocateHandleEntryLocked h.kernel p i (socketRights sockType) 0 with
          | (.ok hd, k) => reply (.ok hd.val.toNat) { h with kernel := k }
          | (.error e, k) => do
            let (_, h) ← freeSocket s { h with kernel := k }
            replyIpc e h

variable (pid : ℕ) (hd : Handle)

def dispatchNetBind (ip : Ip) (port : Port) (h : Host) : Reply :=
  onSocket h pid hd CapRights.netBind BitVec.toNat fun slot rights =>
    atOnce (bindSocket slot ip port (rights &&& CapRights.netConfig ≠ 0) h.net)

def dispatchNetListen (backlog : ℕ) (h : Host) : Reply :=
  onSocket h pid hd CapRights.netListen (fun _ => 0) fun slot _ =>
    atOnce (listenSocket slot backlog h.net)

/-- A connection event is taken off the count of a listener. The table is read and written without
`SOCKET_LOCK`, and a pool index above the table leads outside it. -/
def acceptSocket (slot : ℕ) (n : Stack) : Outcome Unit :=
  if hs : slot < 16 then
    let sock := n.socket ⟨slot, hs⟩
    if sock.state ≠ .listen then Tables.fail .invalidArgument n
    else if sock.rxQueue.count = 0 then Tables.fail .wouldBlock n
    else
      let queue := { sock.rxQueue with count := sock.rxQueue.count - 1 }
      Tables.done () (n.setSocket ⟨slot, hs⟩ { sock with rxQueue := queue })
  else .error .panic

def dispatchNetAccept (h : Host) : Reply :=
  onSocket h pid hd CapRights.netAccept (fun _ => 0) fun slot _ => atOnce (acceptSocket slot h.net)

def dispatchNetConnect (ip : Ip) (port : Port) (h : Host) : Reply :=
  onSocket h pid hd CapRights.netConnect (fun _ => 0) fun slot _ =>
    connectSocket slot ip port false h.net

def dispatchNetSend (buf : Except SyscallError (List Byte)) (flags : BitVec 32)
    (h : Host) : Reply :=
  match buf with
  | .error e => reply (.error e) h
  | .ok payload =>
    onSocket h pid hd CapRights.netSend id fun slot _ =>
      atOnce (sendSocket slot payload (flags &&& 1 ≠ 0) h.net)

def dispatchNetRecv (buf : Except SyscallError ℕ) (flags : BitVec 32)
    (h : Host) : Reply :=
  match buf with
  | .error e => reply (.error e) h
  | .ok len =>
    onSocket h pid hd CapRights.netRecv List.length fun slot _ =>
      recvSocket slot len (flags &&& 1 ≠ 0) h.net

def dispatchNetClose (h : Host) : Reply :=
  match resolveCurrentProcessSlot h.kernel pid with
  | .error e => replyIpc e h
  | .ok p =>
    match validateHandleLocked h.kernel p hd CapRights.close with
    | .error _ => reply (.error .badHandle) h
    | .ok (i, _, _) =>
      if (h.kernel.object i).objType = .socket then do
        let slot := (h.kernel.object i).poolIndex
        let (_, k) ← closeHandleLocked h.kernel p hd
        let (_, h) ← freeSocket slot { h with kernel := k }
        reply (.ok 0) h
      else reply (.error .badHandle) h

/-- The command 1 sets the address of an interface. -/
def dispatchNetConfig (cmd target : ℕ) (value : Ip) (h : Host) : Reply :=
  if cmd = 1 then
    if ht : target < 4 then
      let iface := { h.net.iface ⟨target, ht⟩ with ipv4Addr := value }
      reply (.ok 0) { h with net := h.net.setIface ⟨target, ht⟩ iface }
    else reply (.error .invalidArgument) h
  else reply (.ok 0) h

end ProjectZero.Net.Calls
