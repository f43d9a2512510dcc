import ProjectZero.Net.Ports

/-! # The routing table

`net/route.rs` keeps eight routes in no order. `add_route` masks the network and overwrites the
route of the same network and length, so no two routes agree in both (`Distinct`), and the metric
never decides a lookup: two routes of one length that contain an address are the same route. -/

namespace ProjectZero.Net.Routes

open Lib.Run Net.Tables Ports

abbrev RouteTable := Fin 8 → RouteEntry

def initRoutes : RouteTable :=
  update (fun _ => .empty) 0 { RouteEntry.loopback with metric := 0 }

def findRoute (t : RouteTable) (subnet : Ip) (prefixLen : ℕ) : Option (Fin 8) :=
  (List.finRange 8).find? fun i =>
    (t i).occupied && (t i).destIp = subnet && (t i).prefixLen = prefixLen

def addRoute (t : RouteTable) (destIp : Ip) (prefixLen : ℕ) (gatewayIp : Ip)
    (interfaceId metric : ℕ) : Option RouteTable :=
  if prefixLen > 32 then none
  else
    let subnet := destIp &&& prefixToNetmask prefixLen
    match findRoute t subnet prefixLen with
    | some i => some (update t i { t i with gatewayIp, interfaceId, metric })
    | none =>
      ((List.finRange 8).find? fun i => !(t i).occupied).map fun i =>
        update t i { occupied := true, destIp := subnet, gatewayIp, metric, interfaceId, prefixLen }

def purgeRoutesForInterface (t : RouteTable) (interfaceId : ℕ) : RouteTable := fun i =>
  if (t i).occupied && (t i).interfaceId = interfaceId then .empty else t i

def delRoute (t : RouteTable) (destIp : Ip) (prefixLen : ℕ) : Option RouteTable :=
  if prefixLen > 32 then none
  else (findRoute t (destIp &&& prefixToNetmask prefixLen) prefixLen).map (update t · .empty)

/-- One call; a refused one leaves the table as it is. -/
inductive Step (t : RouteTable) : RouteTable → Prop
  | init : Step t initRoutes
  | add (destIp : Ip) (prefixLen : ℕ) (gatewayIp : Ip) (interfaceId metric : ℕ) :
    Step t ((addRoute t destIp prefixLen gatewayIp interfaceId metric).getD t)
  | del (destIp : Ip) (prefixLen : ℕ) : Step t ((delRoute t destIp prefixLen).getD t)
  | purge (interfaceId : ℕ) : Step t (purgeRoutesForInterface t interfaceId)

/-! ### Networks -/

lemma getLsbD_prefixToNetmask : ∀ p ≤ 32, ∀ b < 32,
    (prefixToNetmask p).getLsbD b = decide (32 - p ≤ b) := by
  decide +kernel

/-- The leading bits of the address are those of the route. -/
def Contains (e : RouteEntry) (ip : Ip) : Prop :=
  ∀ b < 32, 32 - e.prefixLen ≤ b → ip.getLsbD b = e.destIp.getLsbD b

/-- The bits of the network after its prefix are zero. -/
structure Masked (e : RouteEntry) : Prop where
  le : e.prefixLen ≤ 32
  low : ∀ b < 32 - e.prefixLen, e.destIp.getLsbD b = false

lemma masked_subnet {e : RouteEntry} {ip : Ip} (hle : e.prefixLen ≤ 32)
    (h : e.destIp = ip &&& prefixToNetmask e.prefixLen) : Masked e := by
  refine ⟨hle, fun b hb => ?_⟩
  rw [h, BitVec.getLsbD_and, getLsbD_prefixToNetmask _ hle b (by omega),
    decide_eq_false (by omega), Bool.and_false]

lemma contains_iff {e : RouteEntry} (h : Masked e) (ip : Ip) :
    ip &&& prefixToNetmask e.prefixLen = e.destIp ↔ Contains e ip := by
  constructor
  · intro heq b hb hp
    rw [← heq, BitVec.getLsbD_and, getLsbD_prefixToNetmask _ h.le b hb, decide_eq_true hp,
      Bool.and_true]
  · refine fun hc => BitVec.eq_of_getLsbD_eq fun b hb => ?_
    rw [BitVec.getLsbD_and, getLsbD_prefixToNetmask _ h.le b hb]
    by_cases hp : 32 - e.prefixLen ≤ b
    · rw [decide_eq_true hp, Bool.and_true, hc b hb hp]
    · rw [decide_eq_false hp, Bool.and_false, h.low b (by omega)]

/-! ### The table over a run -/

def Distinct (t : RouteTable) : Prop := ∀ i j, (t i).occupied → (t j).occupied →
  (t i).destIp = (t j).destIp → (t i).prefixLen = (t j).prefixLen → i = j

structure Wf (t : RouteTable) : Prop where
  distinct : Distinct t
  masked : ∀ i, (t i).occupied → Masked (t i)

variable {t t' : RouteTable}

lemma Wf.mono (h : Wf t) (hsub : ∀ i, (t' i).occupied → t' i = t i) : Wf t' where
  distinct i j hi hj := by
    have hi' := hsub i hi
    have hj' := hsub j hj
    rw [hi'] at hi ⊢
    rw [hj'] at hj ⊢
    exact h.distinct i j hi hj
  masked i hi := by
    have hi' := hsub i hi
    rw [hi'] at hi ⊢
    exact h.masked i hi

lemma Wf.update (h : Wf t) {k : Fin 8} {e : RouteEntry} (he : e.occupied → Masked e ∧
    ∀ i ≠ k, (t i).occupied → (t i).destIp = e.destIp → (t i).prefixLen ≠ e.prefixLen) :
    Wf (update t k e) where
  distinct i j hi hj hd hp := by
    simp only [update_apply] at hi hj hd hp
    split_ifs at hi hj hd hp with hik hjk hjk
    · rw [hik, hjk]
    · exact absurd hp.symm ((he hi).2 j hjk hj hd.symm)
    · exact absurd hp ((he hj).2 i hik hi hd)
    exact h.distinct i j hi hj hd hp
  masked i hi := by
    simp only [update_apply] at hi ⊢
    split_ifs at hi ⊢
    · exact (he hi).1
    exact h.masked i hi

lemma wf_none : Wf fun _ => .empty where
  distinct _ _ := nofun
  masked _ := nofun

lemma findRoute_none {subnet : Ip} {p : ℕ} (h : findRoute t subnet p = none) (i : Fin 8)
    (hocc : (t i).occupied) (hd : (t i).destIp = subnet) : (t i).prefixLen ≠ p := by
  have := List.find?_eq_none.mp h i (List.mem_finRange i)
  simpa [hocc, hd] using this

lemma wf_add (h : Wf t) {destIp gatewayIp : Ip} {prefixLen interfaceId metric : ℕ}
    (hadd : addRoute t destIp prefixLen gatewayIp interfaceId metric = some t') : Wf t' := by
  unfold addRoute at hadd
  split at hadd
  · cases hadd
  next hle =>
  dsimp only at hadd
  split at hadd
  next i _ =>
    cases hadd
    refine h.update fun hocc => ⟨?_, fun j hj hjo hd hp => hj (h.distinct j i hjo hocc hd hp)⟩
    exact ⟨(h.masked i hocc).le, (h.masked i hocc).low⟩
  next hnone =>
    obtain ⟨i, -, rfl⟩ := Option.map_eq_some_iff.mp hadd
    exact h.update fun _ => ⟨masked_subnet (not_lt.mp hle) rfl, fun i _ => findRoute_none hnone i⟩

lemma wf_step (h : Wf t) (hs : Step t t') : Wf t' := by
  cases hs with
  | init => exact wf_none.update fun _ => ⟨⟨by decide, by decide⟩, fun _ _ => nofun⟩
  | add destIp p gw id metric =>
    cases hadd : addRoute t destIp p gw id metric with
    | none => exact h
    | some t' => exact wf_add h hadd
  | del destIp p =>
    unfold delRoute
    split
    · exact h
    cases findRoute t (destIp &&& prefixToNetmask p) p with
    | none => exact h
    | some i => exact h.update nofun
  | purge id =>
    refine h.mono fun i hi => ?_
    unfold purgeRoutesForInterface at hi ⊢
    split_ifs at hi ⊢
    · cases hi
    rfl

lemma wf_reach (h : Reach (· = fun _ => RouteEntry.empty) Step t) : Wf t := by
  refine h.invariant (I := Wf) (fun t ht => ?_) fun _ _ => wf_step
  exact ht ▸ wf_none

/-! ### Lookups -/

def Matching (t : RouteTable) (ip : Ip) (i : Fin 8) : Prop :=
  (t i).occupied ∧ Contains (t i) ip

/-- What a scan of some routes makes of the best one before it. -/
structure Scanned (t : RouteTable) (ip : Ip) (l : List (Fin 8)) (best best' : BestRoute) : Prop where
  le : best.prefixLen ≤ best'.prefixLen
  max : ∀ i ∈ l, Matching t ip i → (t i).prefixLen ≤ best'.prefixLen
  found : best' = best ∨ ∃ i, Matching t ip i ∧ best'.prefixLen = (t i).prefixLen ∧
    best'.route = some ((t i).interfaceId, (t i).gatewayIp)

lemma scanned_better (h : Wf t) (ip : Ip) (best : BestRoute) (i : Fin 8) :
    Scanned t ip [i] best (betterRoute ip best (t i)) := by
  have hmatch : Matching t ip i ↔
      (t i).occupied ∧ ip &&& prefixToNetmask (t i).prefixLen = (t i).destIp :=
    and_congr_right fun hocc => (contains_iff (h.masked i hocc) ip).symm
  unfold betterRoute
  split
  next hi =>
    simp only [Bool.and_eq_true, Bool.or_eq_true, decide_eq_true_eq] at hi
    obtain ⟨hi, hlen⟩ := hi
    exact ⟨by dsimp only; omega, by simp, .inr ⟨i, hmatch.mpr hi, rfl, rfl⟩⟩
  next hi =>
    simp only [Bool.and_eq_true, Bool.or_eq_true, decide_eq_true_eq, not_and, not_or, not_lt] at hi
    exact ⟨le_rfl, by simpa using fun hm => (hi (hmatch.mp hm)).1, .inl rfl⟩

lemma scanned_foldl (h : Wf t) (ip : Ip) (l : List (Fin 8)) (best : BestRoute) :
    Scanned t ip l best (l.foldl (fun best i => betterRoute ip best (t i)) best) := by
  induction l generalizing best with
  | nil => exact ⟨le_rfl, by simp, .inl rfl⟩
  | cons i l ih =>
    obtain ⟨hle, hmax, hfound⟩ := scanned_better h ip best i
    obtain ⟨hle', hmax', hfound'⟩ := ih (betterRoute ip best (t i))
    refine ⟨hle.trans hle', fun j hj hm => ?_, ?_⟩
    · rcases List.mem_cons.mp hj with rfl | hj
      · exact (hmax j (by simp) hm).trans hle'
      exact hmax' j hj hm
    rcases hfound' with heq | hfound'
    · exact heq ▸ hfound
    exact .inr hfound'

lemma Wf.longest_unique (h : Wf t) {ip : Ip} {i j : Fin 8} (hi : Matching t ip i)
    (hj : Matching t ip j) (hp : (t i).prefixLen = (t j).prefixLen) : i = j := by
  refine h.distinct i j hi.1 hj.1 ?_ hp
  rw [← (contains_iff (h.masked i hi.1) ip).mpr hi.2, hp,
    (contains_iff (h.masked j hj.1) ip).mpr hj.2]

/-- **Longest-prefix match.** -/
theorem lookupRoute_longest {n : Stack}
    (h : Reach (· = fun _ => RouteEntry.empty) Step n.route) :
    Distinct n.route ∧ (∀ i, (n.route i).occupied → Masked (n.route i)) ∧ ∀ ip,
      (lookupRoute n ip = none ↔ ∀ i, ¬Matching n.route ip i) ∧
      ∀ i, Matching n.route ip i →
        (∀ j, Matching n.route ip j → (n.route j).prefixLen ≤ (n.route i).prefixLen) →
        lookupRoute n ip = some ((n.route i).interfaceId, (n.route i).gatewayIp) := by
  have hwf := wf_reach h
  refine ⟨hwf.distinct, hwf.masked, fun ip => ?_⟩
  obtain ⟨-, hmax, hfound⟩ := scanned_foldl hwf ip (List.finRange 8)
    { route := none, prefixLen := -1, metric := 2 ^ 32 - 1 }
  rcases hfound with hr | ⟨i, hm, hp, hr⟩
  · have hno : ∀ i, ¬Matching n.route ip i := fun i hm => by
      have := hmax i (List.mem_finRange i) hm
      rw [hr] at this
      dsimp only at this
      omega
    exact ⟨iff_of_true (congrArg BestRoute.route hr) hno, fun i hi => absurd hi (hno i)⟩
  refine ⟨iff_of_false (fun hnone => ?_) fun hno => hno i hm, fun j hj hjmax => ?_⟩
  · cases hr.symm.trans hnone
  have hle := hmax j (List.mem_finRange j) hj
  rw [hp] at hle
  have hij := hwf.longest_unique hm hj (le_antisymm (hjmax i hm) (by exact_mod_cast hle))
  exact hij ▸ hr

/-- The loopback network, a network of 8 bits and one of 16 bits in it. -/
def nestedRoutes : RouteTable :=
  let t := (addRoute initRoutes 0x0a000000#32 8 1#32 1 0).getD initRoutes
  (addRoute t 0x0a0100ff#32 16 2#32 2 9).getD t

theorem lookupRoute_longest_nested : ∃ n : Stack, n.route = nestedRoutes ∧
    (∀ i, Matching n.route 0x0a010005#32 i ↔ i = 1 ∨ i = 2) ∧
    lookupRoute n 0x0a010005#32 = some (2, 2#32) ∧ lookupRoute n 0x0b000001#32 = none := by
  have hreach : Reach (· = fun _ => RouteEntry.empty) Step nestedRoutes :=
    .next (.next (.next (.start rfl) .init) (.add 0x0a000000#32 8 1#32 1 0))
      (.add 0x0a0100ff#32 16 2#32 2 9)
  have hroutes := (lookupRoute_longest (n := { Stack.boot with route := nestedRoutes }) hreach).2.2
  have hmatch : ∀ i, Matching nestedRoutes 0x0a010005#32 i ↔ i = 1 ∨ i = 2 := by
    unfold Matching Contains
    decide +kernel
  refine ⟨{ Stack.boot with route := nestedRoutes }, rfl, hmatch, ?_, (hroutes _).1.mpr ?_⟩
  · refine (hroutes _).2 2 ((hmatch 2).mpr (.inr rfl)) fun j hj => ?_
    rcases (hmatch j).mp hj with rfl | rfl <;> decide +kernel
  · unfold Matching Contains
    decide +kernel

end ProjectZero.Net.Routes
