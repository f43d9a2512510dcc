import Mathlib

/-! # Programs over an interface

A program makes requests and goes on with the answers, until it returns or stops. What a request does
is left to a handler, so that one program text runs over several stores: over the store the machine
has and over the one its user is to see. Two handlers that answer alike run every program alike; the
postconditions of programs that may fail follow the usual rules of sequence and loop. -/

namespace ProjectZero.Lib.Program

/-- Requests, and the type of the answer to each. -/
structure Interface where
  Request : Type
  Answer : Request → Type

/-- Programs over an interface; `halt` stops the program. -/
inductive Prog (F : Interface) (α : Type) : Type
  | pure (a : α) : Prog F α
  | halt : Prog F α
  | ask (o : F.Request) (k : F.Answer o → Prog F α) : Prog F α

variable {F : Interface} {α β γ ε S T : Type}

namespace Prog

def bind : Prog F α → (α → Prog F β) → Prog F β
  | .pure a, f => f a
  | .halt, _ => .halt
  | .ask o k, f => .ask o fun x => (k x).bind f

instance : Monad (Prog F) where
  pure := Prog.pure
  bind := Prog.bind

/-- A single request. -/
def request (o : F.Request) : Prog F (F.Answer o) := .ask o .pure

lemma bind_assoc' (p : Prog F α) (f : α → Prog F β) (g : β → Prog F γ) :
    (p >>= f >>= g) = (p >>= fun a => f a >>= g) := by
  induction p with
  | pure a => rfl
  | halt => rfl
  | ask o k ih => exact congrArg (Prog.ask o) (funext ih)

lemma bind_pure' (p : Prog F α) : (p >>= Prog.pure) = p := by
  induction p with
  | pure a => rfl
  | halt => rfl
  | ask o k ih => exact congrArg (Prog.ask o) (funext ih)

instance : LawfulMonad (Prog F) :=
  LawfulMonad.mk' (Prog F) bind_pure' (fun _ _ => rfl) bind_assoc'

end Prog

/-! ### Running a program -/

/-- What each request does to a state and what it answers. -/
abbrev Handler (F : Interface) (S : Type) := (o : F.Request) → S → F.Answer o × S

/-- The result of a program, `none` if it stops, and the state it leaves. -/
def run (h : Handler F S) : Prog F α → S → Option α × S
  | .pure a, s => (some a, s)
  | .halt, s => (none, s)
  | .ask o k, s => run h (k (h o s).1) (h o s).2

variable {h : Handler F S} {g : Handler F T} {s : S} {t : T}

lemma run_bind (p : Prog F α) (f : α → Prog F β) (s : S) :
    run h (p >>= f) s =
      match run h p s with
      | (some a, s') => run h (f a) s'
      | (none, s') => (none, s') := by
  induction p generalizing s with
  | pure a => rfl
  | halt => rfl
  | ask o k ih => exact ih (h o s).1 (h o s).2

lemma run_bind_of_some {p : Prog F α} {f : α → Prog F β} {a : α} {s' : S}
    (hp : run h p s = (some a, s')) : run h (p >>= f) s = run h (f a) s' := by
  rw [run_bind, hp]

lemma exists_of_run_bind {p : Prog F α} {f : α → Prog F β} {b : β} {s'' : S}
    (hp : run h (p >>= f) s = (some b, s'')) :
    ∃ a s', run h p s = (some a, s') ∧ run h (f a) s' = (some b, s'') := by
  rw [run_bind] at hp
  rcases hr : run h p s with ⟨_ | a, s'⟩
  · rw [hr] at hp
    cases hp
  rw [hr] at hp
  exact ⟨a, s', rfl, hp⟩

/-- **Simulation.** Two handlers that answer alike in related states, and leave related states, run
every program to the same result. -/
lemma run_related {R : S → T → Prop}
    (hR : ∀ o s t, R s t → (h o s).1 = (g o t).1 ∧ R (h o s).2 (g o t).2)
    (p : Prog F α) (hs : R s t) : (run h p s).1 = (run g p t).1 ∧ R (run h p s).2 (run g p t).2 := by
  induction p generalizing s t with
  | pure a => exact ⟨rfl, hs⟩
  | halt => exact ⟨rfl, hs⟩
  | ask o k ih =>
    obtain ⟨ha, hs'⟩ := hR o s t hs
    have hk := ih (h o s).1 hs'
    simp only [run]
    rw [ha] at hk ⊢
    exact hk

/-- If the program returns, its result and the state it leaves are in `Q`. -/
def Post (h : Handler F S) (p : Prog F α) (s : S) (Q : α → S → Prop) : Prop :=
  ∀ a s', run h p s = (some a, s') → Q a s'

variable {P Q : α → S → Prop}

lemma Post.pure {a : α} (hq : Q a s) : Post h (Pure.pure a) s Q := by
  rintro _ _ ⟨⟩
  exact hq

lemma Post.halt : Post h (Prog.halt : Prog F α) s Q := nofun

lemma Post.mono {p : Prog F α} (hp : Post h p s P) (hPQ : ∀ a s', P a s' → Q a s') :
    Post h p s Q := fun a s' hr => hPQ a s' (hp a s' hr)

lemma Post.of_run {p : Prog F α} {a : α} {s' : S} (hr : run h p s = (some a, s')) (hq : Q a s') :
    Post h p s Q := by
  rintro b t hb
  rw [hr] at hb
  cases hb
  exact hq

/-- **The sequence rule.** -/
lemma Post.bind {p : Prog F α} {f : α → Prog F β} {Q : β → S → Prop} (hp : Post h p s P)
    (hf : ∀ a s', P a s' → Post h (f a) s' Q) : Post h (p >>= f) s Q := by
  intro b s'' hb
  obtain ⟨a, s', ha, hb⟩ := exists_of_run_bind hb
  exact hf a s' (hp a s' ha) b s'' hb

/-! ### Programs that may fail -/

/-- If the program returns, it is with a result in `Q` or with an error in `E`. -/
def EPost (h : Handler F S) (p : ExceptT ε (Prog F) α) (s : S) (E : ε → S → Prop)
    (Q : α → S → Prop) : Prop :=
  Post h p.run s fun r s' =>
    match r with
    | .ok a => Q a s'
    | .error e => E e s'

variable {E : ε → S → Prop}

lemma EPost.pure {a : α} (hq : Q a s) : EPost h (Pure.pure a : ExceptT ε (Prog F) α) s E Q :=
  Post.pure hq

lemma EPost.throw {e : ε} (he : E e s) : EPost h (throw e : ExceptT ε (Prog F) α) s E Q :=
  Post.pure he

variable {p : ExceptT ε (Prog F) α}

lemma EPost.mono {E' : ε → S → Prop} (hp : EPost h p s E' P)
    (hE : ∀ e s', E' e s' → E e s') (hPQ : ∀ a s', P a s' → Q a s') : EPost h p s E Q := by
  refine Post.mono hp fun r s' hr => ?_
  cases r with
  | error e => exact hE e s' hr
  | ok a => exact hPQ a s' hr

lemma EPost.trivial : EPost h p s (fun _ _ => True) fun _ _ => True := by
  intro r s' _
  cases r <;> exact True.intro

lemma EPost.self :
    EPost h p s (fun e s' => run h p.run s = (some (.error e), s'))
      fun a s' => run h p.run s = (some (.ok a), s') := by
  intro r s' hr
  cases r <;> exact hr

lemma EPost.and {E' : ε → S → Prop} (hp : EPost h p s E P) (hp' : EPost h p s E' Q) :
    EPost h p s (fun e s' => E e s' ∧ E' e s') fun a s' => P a s' ∧ Q a s' := by
  intro r s' hr
  have hP := hp r s' hr
  have hQ := hp' r s' hr
  cases r <;> exact ⟨hP, hQ⟩

/-- **The sequence rule** for programs that may fail. -/
lemma EPost.bind {f : α → ExceptT ε (Prog F) β} {Q : β → S → Prop}
    (hp : EPost h p s E P) (hf : ∀ a s', P a s' → EPost h (f a) s' E Q) :
    EPost h (p >>= f) s E Q := by
  refine Post.bind hp fun r s' hr => ?_
  cases r with
  | error e => exact .pure hr
  | ok a => exact hf a s' hr

lemma EPost.last {f : α → ExceptT ε (Prog F) β} {Q : β → S → Prop}
    (hf : ∀ a s', EPost h (f a) s' (fun _ _ => True) Q) : EPost h (p >>= f) s (fun _ _ => True) Q :=
  EPost.trivial.bind fun a s' _ => hf a s'

lemma EPost.ite {c : Prop} [Decidable c] {q : ExceptT ε (Prog F) α}
    (hp : c → EPost h p s E Q) (hq : ¬c → EPost h q s E Q) :
    EPost h (if c then p else q) s E Q := by
  split
  · exact hp ‹_›
  · exact hq ‹_›

end ProjectZero.Lib.Program
