import ProjectZero.Net.Tables

/-! # Ports and routes

`bind_port` binds a port to a socket: the given one, or one of the ephemeral ports. Two bindings of a
protocol and a port collide when one of the addresses is the wildcard or both are the same.
`lookup_socket` finds the socket of an address, and `lookup_route` the interface for it. -/

namespace ProjectZero.Net.Ports

open Net.Tables

/-! ### Binding -/

/-- The binding stands in the way of one of the address `ip` and the port `p`. -/
def collides (protocol : ℕ) (ip : Ip) (p : Port) (s : PortBindingSlot) : Bool :=
  s.occupied && s.protocol = protocol && s.port = p && (s.ipAddr = 0 || ip = 0 || s.ipAddr = ip)

def portInUse (n : Stack) (protocol : ℕ) (ip : Ip) (p : Port) : Bool :=
  (List.finRange 32).any fun i => collides protocol ip p (n.port i)

/-- The loop over the ephemeral ports, from `port` until it is back at `start`: the first one that is
not in use, and the one after it. -/
def searchEphemeral (inUse : Port → Bool) (start : Port) : ℕ → Port → Option (Port × Port)
  | 0, _ => none
  | k + 1, p =>
    let port := if p = 65535 then 49152 else p + 1
    if inUse p = false then some (p, port)
    else if port = start then none
    else searchEphemeral inUse start k port

/-- An ephemeral port. The counter wraps, and is set back to the first ephemeral port. -/
def ephemeralPort (n : Stack) (protocol : ℕ) (ip : Ip) : Option Port × Stack :=
  let port := if n.nextEphemeral < 49152 then 49152 else n.nextEphemeral
  let n := { n with
    nextEphemeral := if n.nextEphemeral < 49152 then 49153 else n.nextEphemeral + 1 }
  match searchEphemeral (portInUse n protocol ip) port 16384 port with
  | none => (none, n)
  | some (p, port) => (some p, { n with nextEphemeral := port })

/-- The binding is entered in the first free slot. -/
def enterBinding (n : Stack) (b : PortBindingSlot) : Except SyscallError Port × Stack :=
  match (List.finRange 32).find? fun i => !(n.port i).occupied with
  | none => (.error .outOfMemory, n)
  | some i => (.ok b.port, { n with port := update n.port i b })

def bindPort (protocol : ℕ) (ip : Ip) (requestedPort : Port) (socketId ownerPid : ℕ)
    (hasNetConfig : Bool) (n : Stack) : Except SyscallError Port × Stack :=
  let binding (p : Port) : PortBindingSlot :=
    { occupied := true, socketId := socketId, ownerPid := ownerPid, ipAddr := ip, port := p,
      protocol := protocol }
  if requestedPort = 0 then
    match ephemeralPort n protocol ip with
    | (none, n) => (.error .addressInUse, n)
    | (some p, n) => enterBinding n (binding p)
  else if requestedPort < 1024 ∧ hasNetConfig = false then (.error .permissionDenied, n)
  else if portInUse n protocol ip requestedPort then (.error .addressInUse, n)
  else enterBinding n (binding requestedPort)

/-- The bindings with the property are removed. -/
def unbindWhere (p : PortBindingSlot → Bool) (n : Stack) : Stack :=
  { n with port := fun i => if (n.port i).occupied && p (n.port i) then .empty else n.port i }

def unbindAllBySocket (socketId : ℕ) : Stack → Stack := unbindWhere fun s => s.socketId = socketId

def unbindAllByPid (pid : ℕ) : Stack → Stack := unbindWhere fun s => s.ownerPid = pid

/-! ### Lookup -/

/-- The first binding of the address itself, or else the first one of the wildcard. -/
def lookupSocket (n : Stack) (protocol : ℕ) (ip : Ip) (p : Port) : Option ℕ :=
  let bound (i : Fin 32) := (n.port i).occupied && (n.port i).protocol = protocol &&
    (n.port i).port = p
  let exact := (List.finRange 32).find? fun i => bound i && (n.port i).ipAddr = ip
  let wildcard := (List.finRange 32).find? fun i => bound i && (n.port i).ipAddr = 0
  (exact.or wildcard).map fun i => (n.port i).socketId

/-! ### The table of ports -/

/-- No two bindings stand in each other's way. -/
def Separate (port : Fin 32 → PortBindingSlot) : Prop :=
  ∀ i j, i ≠ j → (port i).occupied →
    collides (port i).protocol (port i).ipAddr (port i).port (port j) = false

variable {n n' : Stack} {protocol : ℕ} {ip : Ip} {p : Port} {i : Fin 32}

variable {x : PortBindingSlot}

lemma collides_eq_true :
    collides protocol ip p x ↔ x.occupied ∧ x.protocol = protocol ∧ x.port = p ∧
      (x.ipAddr = 0 ∨ ip = 0 ∨ x.ipAddr = ip) := by
  unfold collides
  simp only [Bool.and_eq_true, Bool.or_eq_true, decide_eq_true_eq]
  tauto

lemma portInUse_eq_false (h : portInUse n protocol ip p = false) (i : Fin 32) :
    collides protocol ip p (n.port i) = false := by
  unfold portInUse at h
  rw [List.any_eq_false] at h
  simpa using h i (List.mem_finRange i)

lemma searchEphemeral_free {inUse : Port → Bool} {start next : Port} :
    ∀ {k : ℕ} {q : Port}, 49152 ≤ q → searchEphemeral inUse start k q = some (p, next) →
      49152 ≤ p ∧ inUse p = false
  | 0, _, _, h => by cases h
  | k + 1, q, hrange, h => by
    unfold searchEphemeral at h
    by_cases hq : inUse q = false
    · rw [if_pos hq] at h
      cases h
      exact ⟨hrange, hq⟩
    have hnext : 49152 ≤ if q = 65535 then (49152 : Port) else q + 1 := by
      split
      · exact BitVec.le_refl _
      · bv_omega
    rw [if_neg hq] at h
    generalize (if q = 65535 then (49152 : Port) else q + 1) = port at h hnext
    split at h
    · cases h
    · exact searchEphemeral_free hnext h

variable {r : Except SyscallError Port}

lemma enterBinding_cases (h : enterBinding n x = (r, n')) : (n' = n ∧ r = .error .outOfMemory) ∨
    ∃ i, (n.port i).occupied = false ∧ n' = { n with port := update n.port i x } ∧
      r = .ok x.port := by
  unfold enterBinding at h
  split at h
  · cases h
    exact .inl ⟨rfl, rfl⟩
  rename_i i hi
  cases h
  have hfree := List.find?_some hi
  exact .inr ⟨i, by simpa using hfree, rfl, rfl⟩

/-- **`bind_port`** enters a binding that stands in nobody's way, or none. A port below 1024 is bound
only with the right to configure the network. -/
lemma bindPort_cases {requested : Port} {socketId pid : ℕ} {config : Bool}
    (h : bindPort protocol ip requested socketId pid config n = (r, n')) :
    ∃ next, (n' = { n with nextEphemeral := next } ∧ ∃ e, r = .error e) ∨
      ∃ i p, (n.port i).occupied = false ∧ r = .ok p ∧
        (∀ j, collides protocol ip p (n.port j) = false) ∧
        n' = { n with
          nextEphemeral := next
          port := update n.port i ⟨true, socketId, pid, ip, p, protocol⟩ } ∧
        (if requested = 0 then 49152 ≤ p else p = requested ∧ (p < 1024 → config)) := by
  unfold bindPort at h
  split at h
  next hzero =>
    have hephemeral : ∃ next, (ephemeralPort n protocol ip).2 = { n with nextEphemeral := next } ∧
        ∀ p, (ephemeralPort n protocol ip).1 = some p →
          49152 ≤ p ∧ ∀ j, collides protocol ip p (n.port j) = false := by
      unfold ephemeralPort
      dsimp only
      split
      · exact ⟨_, rfl, nofun⟩
      rename_i hsearch
      refine ⟨_, rfl, fun p hp => ?_⟩
      cases hp
      have hstart : 49152 ≤ if n.nextEphemeral < 49152 then (49152 : Port) else n.nextEphemeral := by
        split
        · exact BitVec.le_refl _
        rename_i hlt
        exact BitVec.not_lt.mp hlt
      obtain ⟨hrange, hfree⟩ := searchEphemeral_free hstart hsearch
      exact ⟨hrange, portInUse_eq_false hfree⟩
    obtain ⟨next, hnext, hfree⟩ := hephemeral
    split at h
    next he =>
      rw [he] at hnext
      cases h
      exact ⟨next, .inl ⟨hnext, _, rfl⟩⟩
    rename_i q m he
    rw [he] at hnext hfree
    have hm : m = { n with nextEphemeral := next } := hnext
    subst hm
    rcases enterBinding_cases h with ⟨rfl, rfl⟩ | ⟨i, hi, rfl, rfl⟩
    · exact ⟨next, .inl ⟨rfl, _, rfl⟩⟩
    refine ⟨next, .inr ⟨i, q, hi, rfl, (hfree q rfl).2, rfl, ?_⟩⟩
    rw [if_pos hzero]
    exact (hfree q rfl).1
  rename_i hzero
  split at h
  · cases h
    exact ⟨n.nextEphemeral, .inl ⟨rfl, _, rfl⟩⟩
  rename_i hpriv
  split at h
  · cases h
    exact ⟨n.nextEphemeral, .inl ⟨rfl, _, rfl⟩⟩
  rename_i huse
  rcases enterBinding_cases h with ⟨hn, rfl⟩ | ⟨i, hi, rfl, rfl⟩
  · exact ⟨n.nextEphemeral, .inl ⟨hn, _, rfl⟩⟩
  refine ⟨n.nextEphemeral, .inr ⟨i, requested, hi, rfl,
    portInUse_eq_false (by simpa using huse), rfl, ?_⟩⟩
  rw [if_neg hzero]
  refine ⟨rfl, fun hlt => ?_⟩
  by_contra hc
  exact hpriv ⟨hlt, by simpa using hc⟩

lemma collides_comm {y : PortBindingSlot} (hx : x.occupied) (hy : y.occupied) :
    collides x.protocol x.ipAddr x.port y = collides y.protocol y.ipAddr y.port x := by
  rw [Bool.eq_iff_iff, collides_eq_true, collides_eq_true]
  constructor
  · rintro ⟨-, hp, hq, hi⟩
    exact ⟨hx, hp.symm, hq.symm, by tauto⟩
  rintro ⟨-, hp, hq, hi⟩
  exact ⟨hy, hp.symm, hq.symm, by tauto⟩

lemma Separate.enter {port : Fin 32 → PortBindingSlot} (h : Separate port)
    (hx : x.occupied) (hfree : ∀ j, collides x.protocol x.ipAddr x.port (port j) = false) :
    Separate (update port i x) := by
  intro a b hab ha
  by_cases hai : a = i
  · subst hai
    rw [update_self, update_of_ne hab.symm]
    exact hfree b
  rw [update_of_ne hai] at ha ⊢
  by_cases hbi : b = i
  · subst hbi
    rw [update_self, collides_comm ha hx]
    exact hfree a
  rw [update_of_ne hbi]
  exact h a b hab ha

variable {f : PortBindingSlot → Bool}

lemma unbindWhere_port
    (hi : ((unbindWhere f n).port i).occupied) : (unbindWhere f n).port i = n.port i := by
  unfold unbindWhere at hi ⊢
  dsimp only at hi ⊢
  split at hi
  · cases hi
  rename_i hc
  rw [if_neg hc]

lemma Separate.mono {port port' : Fin 32 → PortBindingSlot} (h : Separate port)
    (hkeep : ∀ i, (port' i).occupied → port' i = port i) : Separate port' := by
  intro a b hab ha
  have hka := hkeep a ha
  rw [hka] at ha ⊢
  by_cases hb : (port' b).occupied = true
  · rw [hkeep b hb]
    exact h a b hab ha
  unfold collides
  simp [hb]

lemma Separate.unbind (h : Separate n.port) : Separate (unbindWhere f n).port :=
  h.mono fun _ => unbindWhere_port

/-- A binding for the protocol and the port at the address, or at the wildcard. -/
def Bound (x : PortBindingSlot) (protocol : ℕ) (ip : Ip) (p : Port) : Prop :=
  x.occupied ∧ x.protocol = protocol ∧ x.port = p ∧ (x.ipAddr = ip ∨ x.ipAddr = 0)
  deriving Decidable

lemma Separate.bound_unique {j : Fin 32} (h : Separate n.port) (hi : Bound (n.port i) protocol ip p)
    (hj : Bound (n.port j) protocol ip p) : i = j := by
  by_contra hne
  have hc := h i j hne hi.1
  have ht : collides (n.port i).protocol (n.port i).ipAddr (n.port i).port (n.port j) := by
    refine collides_eq_true.mpr ⟨hj.1, hj.2.1.trans hi.2.1.symm, hj.2.2.1.trans hi.2.2.1.symm, ?_⟩
    rcases hi.2.2.2 with ha | ha
    · rcases hj.2.2.2 with hb | hb
      · exact .inr (.inr (hb.trans ha.symm))
      · exact .inl hb
    · exact .inr (.inl ha)
  rw [hc] at ht
  cases ht

lemma lookupSocket_some {id : ℕ} (h : lookupSocket n protocol ip p = some id) :
    ∃ i, Bound (n.port i) protocol ip p ∧ (n.port i).socketId = id := by
  unfold lookupSocket at h
  rw [Option.map_eq_some_iff] at h
  obtain ⟨i, hi, hid⟩ := h
  refine ⟨i, ?_, hid⟩
  rcases Option.or_eq_some_iff.mp hi with he | ⟨-, hw⟩
  · have hf := List.find?_some he
    simp only [Bool.and_eq_true, decide_eq_true_eq] at hf
    exact ⟨hf.1.1.1, hf.1.1.2, hf.1.2, .inl hf.2⟩
  have hf := List.find?_some hw
  simp only [Bool.and_eq_true, decide_eq_true_eq] at hf
  exact ⟨hf.1.1.1, hf.1.1.2, hf.1.2, .inr hf.2⟩

/-- **Lookup** finds the socket that is bound at the address, exactly or by the wildcard. -/
lemma Separate.lookupSocket_eq (h : Separate n.port) (hi : Bound (n.port i) protocol ip p) :
    lookupSocket n protocol ip p = some (n.port i).socketId := by
  cases hl : lookupSocket n protocol ip p with
  | some id =>
    obtain ⟨j, hj, hid⟩ := lookupSocket_some hl
    rw [h.bound_unique hi hj, hid]
  | none =>
    unfold lookupSocket at hl
    rw [Option.map_eq_none_iff, Option.or_eq_none_iff] at hl
    obtain ⟨hexact, hwild⟩ := hl
    have he := List.find?_eq_none.mp hexact i (List.mem_finRange i)
    have hw := List.find?_eq_none.mp hwild i (List.mem_finRange i)
    obtain ⟨hocc, hproto, hport, hip⟩ := hi
    simp only [hocc, hproto, hport, decide_true, Bool.and_self, Bool.true_and, decide_eq_true_eq]
      at he hw
    rcases hip with hip | hip
    · exact absurd hip he
    · exact absurd hip hw

/-! ### Routes -/

def prefixToNetmask (prefixLen : ℕ) : Ip :=
  if prefixLen = 0 then 0
  else if prefixLen ≥ 32 then 0xFFFFFFFF
  else ~~~((1#32 <<< (32 - prefixLen)) - 1#32)

/-- The best route so far: its interface and gateway, its length and its metric. -/
structure BestRoute where
  route : Option (ℕ × Ip)
  prefixLen : ℤ
  metric : ℕ

/-- A route is better when it is longer, or as long and cheaper. -/
def betterRoute (dest : Ip) (best : BestRoute) (e : RouteEntry) : BestRoute :=
  if e.occupied && dest &&& prefixToNetmask e.prefixLen = e.destIp &&
      (best.prefixLen < e.prefixLen || (e.prefixLen = best.prefixLen && e.metric < best.metric)) then
    { route := some (e.interfaceId, e.gatewayIp), prefixLen := e.prefixLen, metric := e.metric }
  else best

def lookupRoute (n : Stack) (dest : Ip) : Option (ℕ × Ip) :=
  ((List.finRange 8).foldl (fun best i => betterRoute dest best (n.route i))
    { route := none, prefixLen := -1, metric := 2 ^ 32 - 1 }).route

end ProjectZero.Net.Ports
