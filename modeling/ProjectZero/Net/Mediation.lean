import ProjectZero.Ipc.Steps
import ProjectZero.Net.Bindings
import ProjectZero.Net.Calls
import ProjectZero.Net.Effects

/-! # Who configures the network

Interface addresses and the ports below 1024 are meant for processes that were given the right to
configure the network. The calls leave both alone, with two exceptions: `net_config` sets an address for
any caller, and `net_bind` asks for a right that `net_socket` gives to everybody. -/

namespace ProjectZero.Net.Mediation

open Lib.Layout Lib.Run ProjectZero.Tables Net.Tables Ports Bindings Socket Effects Calls

/-! ### The system -/

/-- The machine, and the processes that were given the right to configure the network. -/
structure Station where
  host : Host
  given : List ℕ

/-- The calls on the network; a call that has parked goes on with another round on its slot. -/
inductive NetCall
  | socket (sockTypeVal protocol : ℕ)
  | bind (hd : Handle) (ip : Ip) (port : Port)
  | listen (hd : Handle) (backlog : ℕ)
  | accept (hd : Handle)
  | connect (hd : Handle) (ip : Ip) (port : Port)
  | resumeConnect (s : SockIdx)
  | send (hd : Handle) (buf : Except SyscallError (List Byte)) (flags : BitVec 32)
  | recv (hd : Handle) (buf : Except SyscallError ℕ) (flags : BitVec 32)
  | resumeRecv (s : SockIdx) (len : ℕ)
  | close (hd : Handle)
  | query
  | config (cmd target : ℕ) (value : Ip)

def resumed {α : Type} (h : Host) (x : Round α) : Reply := do
  let (_, n) ← x
  .ok (.parked, { h with net := n })

def NetCall.dispatch (pid : ℕ) (h : Host) : NetCall → Reply
  | .socket sockTypeVal protocol => dispatchNetSocket pid sockTypeVal protocol h
  | .bind hd ip port => dispatchNetBind pid hd ip port h
  | .listen hd backlog => dispatchNetListen pid hd backlog h
  | .accept hd => dispatchNetAccept pid hd h
  | .connect hd ip port => dispatchNetConnect pid hd ip port h
  | .resumeConnect s => resumed h (locked h.net (connectRound s h.net))
  | .send hd buf flags => dispatchNetSend pid hd buf flags h
  | .recv hd buf flags => dispatchNetRecv pid hd buf flags h
  | .resumeRecv s len => resumed h (recvRound s len false h.net)
  | .close hd => dispatchNetClose pid hd h
  | .query => reply (.ok 0) h
  | .config cmd target value => dispatchNetConfig cmd target value h

def NetCall.exec (pid : ℕ) (σ : Station) (c : NetCall) : Except Halt Station := do
  let (_, h) ← c.dispatch pid σ.host
  .ok { σ with host := h }

/-- The process has a handle with the right to configure the network. -/
def HoldsConfig (k : Kernel) (pid : ℕ) : Prop :=
  ∃ p h, (k.process p).occupied ∧ (k.process p).id = pid ∧
    (k.entry (p, h)).occupied ∧ (k.entry (p, h)).rights &&& CapRights.netConfig ≠ 0

/-- Ports below 1024 belong to sockets of processes that were given the right. -/
def Guarded (σ : Station) : Prop :=
  ∀ j, (σ.host.net.port j).occupied → (σ.host.net.port j).port < 1024 →
    (σ.host.net.port j).ownerPid ∈ σ.given

/-- The call of the process has kept to the rules. -/
def Mediated (pid : ℕ) (σ σ' : Station) : Prop :=
  (∀ i, (σ'.host.net.iface i).ipv4Addr ≠ (σ.host.net.iface i).ipv4Addr →
    HoldsConfig σ.host.kernel pid) ∧ Guarded σ'

/-- The port is one below 1024, and nothing keeps it from being bound to the socket. -/
def BindsLow (n : Stack) (s : SockIdx) (ip : Ip) (port : Port) (config : Bool) : Prop :=
  (n.socket s).occupied ∧ port ≠ 0 ∧ port < 1024 ∧
    ∃ proto ∈ protocolOf (n.socket s).sockType, ¬Refused n proto ip port config

/-- An address is set by a process with the right, and a port below 1024 is bound for a socket of a
process that was given the right. -/
def NetCall.Permitted (pid : ℕ) (σ : Station) : NetCall → Prop
  | .bind hd ip port => ∀ slot rights,
      lookupHandle σ.host pid hd CapRights.netBind = .ok (slot, rights) → ∀ hs : slot < 16,
      BindsLow σ.host.net ⟨slot, hs⟩ ip port (rights &&& CapRights.netConfig ≠ 0) →
        (σ.host.net.socket ⟨slot, hs⟩).ownerPid ∈ σ.given
  | .config cmd target value => cmd = 1 → ∀ ht : target < 4,
      (σ.host.net.iface ⟨target, ht⟩).ipv4Addr ≠ value → HoldsConfig σ.host.kernel pid
  | _ => True

/-- The process in the slot `p` got a handle with the right to configure the network. -/
def GotConfig (k k' : Kernel) (p : PSlot) : Prop :=
  ∃ h, (k.entry (p, h)).occupied = false ∧ (k'.entry (p, h)).occupied ∧
    (k'.entry (p, h)).rights &&& CapRights.netConfig ≠ 0
  deriving Decidable

/-- The process that an operation has given the right to: one that got a handle of another process. -/
def granted (k k' : Kernel) : Ipc.Steps.Op → List ℕ
  | .delegate src dst _ | .move src dst =>
    if src.1 ≠ dst ∧ GotConfig k k' dst then [(k.process dst).id] else []
  | _ => []

/-- An operation on the handles, with the calls that are `pending`. -/
def Station.operate (σ : Station) (pending : TSlot → Option Ipc.Channel.Pending)
    (op : Ipc.Steps.Op) : Except Halt Station := do
  let (_, τ) ← op.exec ⟨σ.host.kernel, pending⟩
  .ok { host := { σ.host with kernel := τ.kernel },
        given := granted σ.host.kernel τ.kernel op ++ σ.given }

/-- At boot those have the right who have a handle with it. -/
def Start (σ : Station) : Prop :=
  σ.host.net = .boot ∧ ∀ pid, pid ∈ σ.given ↔ HoldsConfig σ.host.kernel pid

/-- A permitted call on the network, an operation on handles and channels, or anything else in the
kernel that makes no handle. -/
inductive Next (σ : Station) : Station → Prop
  | call {σ' : Station} (pid : ℕ) (c : NetCall) : c.Permitted pid σ → c.exec pid σ = .ok σ' → Next σ σ'
  | operation {σ' : Station} (pending : TSlot → Option Ipc.Channel.Pending) (op : Ipc.Steps.Op) :
      σ.operate pending op = .ok σ' → Next σ σ'
  | elsewhere (k : Kernel) :
      (∀ s, (k.entry s).occupied → k.entry s = σ.host.kernel.entry s) →
      Next σ { σ with host := { σ.host with kernel := k } }

/-! ### Calls that change neither -/

variable {n n' n₁ : Stack} {h h' : Host} {s : SockIdx}

/-- No address changes, and no port below 1024 is bound anew. -/
structure Quiet (n n' : Stack) : Prop where
  address : ∀ i, (n'.iface i).ipv4Addr = (n.iface i).ipv4Addr
  port : ∀ j, (n'.port j).occupied → (n'.port j).port < 1024 → n'.port j = n.port j

lemma Quiet.refl (n : Stack) : Quiet n n := ⟨fun _ => rfl, fun _ _ _ => rfl⟩

lemma Quiet.trans (h : Quiet n n₁) (h' : Quiet n₁ n') : Quiet n n' where
  address i := (h'.address i).trans (h.address i)
  port j ho hp := by
    have h1 := h'.port j ho hp
    rw [h1] at ho hp ⊢
    exact h.port j ho hp

lemma Quiet.of_carried (h : Carried n n') : Quiet n n' :=
  ⟨h.ipv4Addr, fun j _ _ => by rw [h.port]⟩

variable {protocol pid slot : ℕ} {ip : Ip} {p port : Port} {config nb : Bool}
  {r : Except SyscallError Unit}

variable {a : Answer ℕ} {α : Type} {hd : Handle} {right : Rights} {value : α → ℕ}
  {call : ℕ → Rights → Round α} {c : NetCall}

variable {σ : Station}

section

variable (hg : Guarded σ)

include hg

lemma Guarded.quiet (hq : Quiet σ.host.net h'.net) : Guarded { σ with host := h' } := by
  intro j ho hp
  have hj := hq.port j ho hp
  rw [hj] at ho hp ⊢
  exact hg j ho hp

lemma Mediated.of_quiet (hq : Quiet σ.host.net h'.net) (pid : ℕ) :
    Mediated pid σ { σ with host := h' } :=
  ⟨fun i hne => absurd (hq.address i) hne, hg.quiet hq⟩

end

end ProjectZero.Net.Mediation
