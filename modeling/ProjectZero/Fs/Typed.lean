import ProjectZero.Fs.Transparent

/-! # Volumes that can be computed with

A volume whose blocks are kept as the structures they were written as. It answers requests as the
volume of their bytes does, and a block is turned into bytes only if it is read as another structure
than it was written as, so that runs of the filesystem on it can be evaluated. -/

namespace ProjectZero.Fs.Typed

open Lib.Program Fs.Types Store

/-- A block as the structure it was written as. -/
abbrev Cell := (k : Kind) × View k

namespace Cell

def bytes (c : Cell) : Block := (format c.1).symm c.2

def read (k : Kind) (c : Cell) : View k := if h : c.1 = k then h ▸ c.2 else format k c.bytes

lemma read_eq (k : Kind) (c : Cell) : c.read k = format k c.bytes := by
  unfold read
  split
  next h =>
    subst h
    simp [bytes]
  · rfl

end Cell

structure TypedVolume where
  cells : DeviceId → ℕ → Cell
  objects : Objects

def TypedVolume.blank : TypedVolume := ⟨fun _ _ => ⟨.raw, zeroBlock⟩, fun _ => .empty⟩

def typed : Handler store TypedVolume
  | .read d k b, t => (.ok ((t.cells d b).read k), t)
  | .write d k b v, t =>
    (.ok (), { t with
      cells := update t.cells d (update (t.cells d) b ⟨k, v⟩) })
  | .syncBlock _ _, t => (.ok (), t)
  | .syncAll _, t => (.ok (), t)
  | .objects, t => (t.objects, t)
  | .setObjects o, t => ((), { t with objects := o })

def TypedVolume.toVolume (t : TypedVolume) : Volume := ⟨fun d b => (t.cells d b).bytes, t.objects⟩

lemma typed_related (o : Request) (t : TypedVolume) (vol : Volume) (h : vol = t.toVolume) :
    (typed o t).1 = (volume o vol).1 ∧ (volume o vol).2 = (typed o t).2.toVolume := by
  subst h
  cases o with
  | read d k b => exact ⟨congrArg Except.ok (Cell.read_eq k _), rfl⟩
  | write d k b v =>
    refine ⟨rfl, ?_⟩
    simp only [volume, typed, TypedVolume.toVolume, Volume.put, Volume.mk.injEq, and_true]
    funext d' b'
    by_cases hd : d' = d
    · subst hd
      by_cases hb : b' = b
      · subst hb
        simp only [update_self]
        rfl
      · simp [hb]
    · simp [hd]
  | syncBlock | syncAll | objects | setObjects => exact ⟨rfl, rfl⟩

variable {α : Type}

lemma volume_of_typed {p : FsM α} {t t' : TypedVolume} {r : Option (Except FsError α)}
    (h : exec typed p t = (r, t')) : exec volume p t.toVolume = (r, t'.toVolume) := by
  have hr := run_related (R := fun t vol => vol = t.toVolume)
    (fun o t vol hv => typed_related o t vol hv) p.run (s := t) rfl
  rw [show run typed p.run t = (r, t') from h] at hr
  exact Prod.ext hr.1.symm hr.2

/-- The result of a run, checked. -/
def endsWell {S : Type} (x : Option (Except FsError α) × S) (Q : α → S → Bool) : Bool :=
  match x with
  | (some (.ok a), s) => Q a s
  | _ => false

lemma exists_of_endsWell {S : Type} {x : Option (Except FsError α) × S} {Q : α → S → Bool}
    (h : endsWell x Q) : ∃ a s, x = (some (.ok a), s) ∧ Q a s := by
  unfold endsWell at h
  split at h
  · exact ⟨_, _, rfl, h⟩
  · cases h

end ProjectZero.Fs.Typed
