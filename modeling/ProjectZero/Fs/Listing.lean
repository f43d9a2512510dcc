import ProjectZero.Fs.Lookup

/-! # Listing a directory page by page

`read_entries` returns a page of live entries, from a slot of the directory on; its caller takes the
number of entries it has got so far for the next slot. That is right as long as the live entries come
first in the directory (`listing_exact_iff`); what lies behind a free slot is returned again
(`entry_listed_twice`). -/

namespace ProjectZero.Fs.Listing

open Lib.Layout Fs.Types Store Dir Calls Inspect Lookup

/-! ### The calls -/

structure UserDirEntry where
  inodeNumber : BitVec 32
  fileType : Byte
  nameLen : Byte
  reserved : BitVec 16
  name : List Byte
  deriving DecidableEq

/-- An entry as the caller gets it: up to 55 bytes of the name, in 56 bytes. -/
def userEntry (e : DiskDirEntry) : UserDirEntry :=
  let name := (List.ofFn e.name).take (min e.nameLen.toNat 55)
  ⟨e.inodeNum, e.fileType, e.nameLen, 0, name ++ List.replicate (56 - name.length) 0⟩

/-- The loop over the slots; `room` is the length of the caller's buffer. -/
def collect (room : ℕ) : List DiskDirEntry → List UserDirEntry → List UserDirEntry
  | [], out => out
  | e :: slots, out =>
    if out.length ≥ room then out
    else if e.inodeNum ≠ 0 then collect room slots (out ++ [userEntry e])
    else collect room slots out

def readEntries (d : DeviceId) (dir : BitVec 32) (entryOffset : ℕ) (capturedGen : BitVec 32)
    (room : ℕ) : FsM (List UserDirEntry × BitVec 32) := do
  let inode ← readDirInode d dir
  if entryOffset > 0 ∧ capturedGen ≠ inode.generation then throw .busy
  else
    match dirBlockIdx dir inode .notFound with
    -- a directory without a block is empty
    | .error _ => pure ([], inode.generation)
    | .ok block => do
      let entries ← readBlock d .dir block
      pure (collect room ((List.ofFn entries).drop entryOffset) [], inode.generation)

variable {s : Volume} {d : DeviceId} {dir gen : BitVec 32} {i : DiskInode} {room offset : ℕ}

/-- The paging loop of `handle_object_reconcile` on a volume that does not change; none if it has not
ended after so many calls. -/
def pagesFrom (s : Volume) (d : DeviceId) (dir : BitVec 32) (room : ℕ) :
    ℕ → ℕ → BitVec 32 → Option (List UserDirEntry)
  | 0, _, _ => none
  | calls + 1, offset, gen =>
    match (exec volume (readEntries d dir offset gen room) s).1 with
    | some (.ok (page, gen)) =>
      if page = [] then some []
      else (pagesFrom s d dir room calls (offset + page.length) gen).map (page ++ ·)
    | some (.error .busy) => pagesFrom s d dir room calls 0 0
    | _ => some []

/-- The whole listing. A page moves the offset on, and a directory has 64 slots. -/
def listing (s : Volume) (d : DeviceId) (dir : BitVec 32) (room : ℕ) : Option (List UserDirEntry) :=
  pagesFrom s d dir room 65 0 0

/-! ### The entries of a directory -/

/-- The slots of a directory. -/
def slotsOf (s : Volume) (d : DeviceId) (dir : BitVec 32) (i : DiskInode) : List DiskDirEntry :=
  match dirBlockIdx dir i .notFound with
  | .error _ => []
  | .ok b => List.ofFn (s.get d .dir b)

variable (slots : List DiskDirEntry)

def live : List DiskDirEntry := slots.filter (·.inodeNum ≠ 0)

/-- The live entries come first: there is none behind as many slots as there are live entries. -/
def Packed : Prop := live (slots.drop (live slots).length) = []
  deriving Decidable

lemma length_slotsOf_le : (slotsOf s d dir i).length ≤ 64 := by
  unfold slotsOf
  split <;> simp

lemma length_live_le : (live slots).length ≤ slots.length :=
  List.length_filter_le ..

lemma live_drop {slots : List DiskDirEntry} (h : Packed slots) {n : ℕ}
    (hn : n ≤ (live slots).length) : live (slots.drop n) = (live slots).drop n := by
  obtain ⟨m, hm⟩ : ∃ m, (live slots).length = m := ⟨_, rfl⟩
  rw [Packed, hm] at h
  have hlen := length_live_le slots
  have hsplit : live slots = live (slots.take m) := by
    conv_lhs => rw [← List.take_append_drop m slots]
    rw [live, List.filter_append, ← live, ← live, h, List.append_nil]
  -- as many live entries as slots: all these slots are live
  have hall : live (slots.take m) = slots.take m := by
    refine (List.filter_sublist).eq_of_length ?_
    rw [← live, ← hsplit, hm, List.length_take]
    omega
  have hpart : slots.drop n = (slots.take m).drop n ++ slots.drop m := by
    conv_lhs => rw [← List.take_append_drop m slots]
    rw [List.drop_append_of_le_length (by rw [List.length_take]; omega)]
  have hlive : live ((slots.take m).drop n) = (slots.take m).drop n :=
    List.filter_eq_self.mpr fun e he =>
      List.filter_eq_self.mp hall e ((List.drop_sublist n _).subset he)
  rw [hpart, live, List.filter_append, ← live, ← live, h, List.append_nil, hlive, hsplit, hall]

/-! ### One page -/

lemma collect_eq : ∀ out : List UserDirEntry, collect room slots out =
    out ++ ((live slots).take (room - out.length)).map userEntry := by
  induction slots with
  | nil => simp [collect, live]
  | cons e slots ih =>
    intro out
    unfold collect
    split
    · simp [Nat.sub_eq_zero_of_le ‹_›]
    obtain ⟨n, hn⟩ : ∃ n, room - out.length = n + 1 := ⟨room - out.length - 1, by omega⟩
    split
    next he =>
      have hlive : live (e :: slots) = e :: live slots := List.filter_cons_of_pos (by simpa using he)
      rw [ih, hlive, hn, List.take_succ_cons, List.length_append, ← Nat.sub_sub, hn]
      simp
    rename_i he
    have hlive : live (e :: slots) = live slots := List.filter_cons_of_neg (by simpa using he)
    rw [ih, hlive]

def page (room offset : ℕ) : List UserDirEntry :=
  ((live (slots.drop offset)).take room).map userEntry

lemma exec_readEntries (h : foundDir s d dir = .ok i) (hgen : offset = 0 ∨ gen = i.generation) :
    exec volume (readEntries d dir offset gen room) s =
      (some (.ok (page (slotsOf s d dir i) room offset, i.generation)), s) := by
  unfold readEntries page slotsOf
  rw [exec_bind_ok (by rw [exec_readDirInode, h]), if_neg (by rcases hgen with h | h <;> simp [h])]
  split
  · simp [live]
  rw [exec_bind_ok (exec_readBlock _ _ _), collect_eq]
  simp

/-! ### All pages -/

section

variable (h : foundDir s d dir = .ok i)

include h

/-- **The loop ends**, at an offset behind which nothing is live; if the live entries come first, it
has then returned all of them from its first offset on. -/
lemma pagesFrom_spec (room calls : ℕ) : ∀ (offset : ℕ) (gen : BitVec 32), offset ≤ 64 →
    64 < calls + offset → offset = 0 ∨ gen = i.generation →
    ∃ out, pagesFrom s d dir room calls offset gen = some out ∧
      (room ≠ 0 → live ((slotsOf s d dir i).drop (offset + out.length)) = []) ∧
      (Packed (slotsOf s d dir i) → room ≠ 0 → offset ≤ (live (slotsOf s d dir i)).length →
        out = ((live (slotsOf s d dir i)).drop offset).map userEntry) ∧ (room = 0 → out = []) := by
  induction calls with
  | zero => intro offset gen hle hlt; omega
  | succ calls ih =>
    intro offset gen hle hlt hgen
    obtain ⟨slots, hslots⟩ : ∃ slots, slotsOf s d dir i = slots := ⟨_, rfl⟩
    have h64 : slots.length ≤ 64 := hslots ▸ length_slotsOf_le
    simp only [hslots] at ih ⊢
    obtain ⟨p, hp⟩ : ∃ p, page slots room offset = p := ⟨_, rfl⟩
    have hread : pagesFrom s d dir room (calls + 1) offset gen = if p = [] then some []
        else (pagesFrom s d dir room calls (offset + p.length) i.generation).map (p ++ ·) := by
      rw [pagesFrom, exec_readEntries h hgen, hslots, hp]
    by_cases hnil : p = []
    · have hnone : room ≠ 0 → live (slots.drop offset) = [] := fun hroom => by
        rw [← hp, page, List.map_eq_nil_iff, List.take_eq_nil_iff] at hnil
        exact hnil.resolve_left hroom
      refine ⟨[], by rw [hread, if_pos hnil], hnone, fun hpk hroom hoff => ?_, fun _ => rfl⟩
      rw [← live_drop hpk hoff, hnone hroom, List.map_nil]
    have hroom : room ≠ 0 := by
      rintro rfl
      exact hnil (by rw [← hp, page, List.take_zero, List.map_nil])
    have hlen : p.length = min room (live (slots.drop offset)).length := by
      rw [← hp, page, List.length_map, List.length_take]
    have hpos := List.length_pos_iff.mpr hnil
    have hfit := length_live_le (slots.drop offset)
    rw [List.length_drop] at hfit
    obtain ⟨out, hout, hend, hall, -⟩ :=
      ih (offset + p.length) i.generation (by omega) (by omega) (.inr rfl)
    refine ⟨p ++ out, by rw [hread, if_neg hnil, hout]; rfl, fun _ => ?_, fun hpk _ hoff => ?_,
      fun h0 => absurd h0 hroom⟩
    · rw [List.length_append, ← Nat.add_assoc]
      exact hend hroom
    -- the page is the next part of the live entries
    have hdrop := live_drop hpk hoff
    rw [hdrop] at hlen
    have hpage : p = (((live slots).drop offset).take p.length).map userEntry := by
      rw [hlen, ← List.take_eq_take_min, ← hdrop]
      exact hp.symm
    rw [List.length_drop] at hlen
    rw [hall hpk hroom (by omega), ← List.drop_drop]
    conv_lhs => arg 1; rw [hpage]
    rw [← List.map_append, List.take_append_drop]

/-- The loop ends, and every live entry was returned once. -/
def Exact (s : Volume) (d : DeviceId) (dir : BitVec 32) (i : DiskInode) (room : ℕ) : Prop :=
  ∃ out, listing s d dir room = some out ∧ out.Perm ((live (slotsOf s d dir i)).map userEntry)

omit h in
lemma Exact.packed (h : foundDir s d dir = .ok i) (he : Exact s d dir i room) :
    Packed (slotsOf s d dir i) ∧ (room = 0 → live (slotsOf s d dir i) = []) := by
  obtain ⟨out, hout, hperm⟩ := he
  obtain ⟨out', hout', hend, -, hnone⟩ :=
    pagesFrom_spec h room 65 0 0 (Nat.zero_le _) (by decide) (.inl rfl)
  obtain rfl : out = out' := Option.some.inj (hout.symm.trans hout')
  have hlen : out.length = (live (slotsOf s d dir i)).length := by
    rw [hperm.length_eq, List.length_map]
  have hempty : room = 0 → live (slotsOf s d dir i) = [] := fun h0 =>
    List.length_eq_zero_iff.mp (by rw [← hlen, hnone h0, List.length_nil])
  refine ⟨?_, hempty⟩
  by_cases h0 : room = 0
  · rw [Packed, hempty h0]
    exact hempty h0
  rw [Packed, ← hlen, ← Nat.zero_add out.length]
  exact hend h0

/-- **A listing is exact** if and only if the live entries come first in the directory; pages without
room list nothing. -/
theorem listing_exact_iff : Exact s d dir i room ↔
    Packed (slotsOf s d dir i) ∧ (room = 0 → live (slotsOf s d dir i) = []) := by
  refine ⟨fun he => he.packed h, fun ⟨hpk, hempty⟩ => ?_⟩
  obtain ⟨out, hout, -, hall, hnone⟩ :=
    pagesFrom_spec h room 65 0 0 (Nat.zero_le _) (by decide) (.inl rfl)
  refine ⟨out, hout, ?_⟩
  by_cases h0 : room = 0
  · rw [hnone h0, hempty h0, List.map_nil]
  · rw [hall hpk h0 (Nat.zero_le _), List.drop_zero]

end

/-- A volume with these entries in its root directory. -/
def rootWith (entries : Fin 64 → DiskDirEntry) : Volume :=
  setInode ⟨fun _ _ => (format .dir).symm entries, fun _ => .empty⟩
    .mem rootDirInode newRootInode.recomputeChecksum

lemma foundDir_rootWith (entries : Fin 64 → DiskDirEntry) :
    foundDir (rootWith entries) .mem rootDirInode = .ok newRootInode.recomputeChecksum := by
  have hr : Readable newRootInode.recomputeChecksum :=
    .inr (DiskInode.isValidChecksum_recomputeChecksum _)
  rw [foundDir, foundInode, if_pos (by decide), rootWith, inodeAt_setInode_self, if_pos hr]
  rfl

lemma slotsOf_rootWith (entries : Fin 64 → DiskDirEntry) (i : DiskInode) :
    slotsOf (rootWith entries) .mem rootDirInode i = List.ofFn entries := by
  rw [slotsOf, dirBlockIdx, if_pos rfl]
  dsimp only
  rw [rootWith, get_setInode_of_ne (by decide)]
  simp [Volume.get]

def oneFile (slot : Fin 64) : Fin 64 → DiskDirEntry :=
  update (fun _ => .empty) slot (newEntry 2 .regular [102])

/-- Two files and a directory between them. -/
def threeEntries : Fin 64 → DiskDirEntry :=
  update (update (oneFile 0) 1 (newEntry 3 .directory [100])) 2 (newEntry 4 .regular [103])

/-- Three pages with one entry each. -/
theorem listing_exact_paged :
    Exact (rootWith threeEntries) .mem rootDirInode newRootInode.recomputeChecksum 1 := by
  refine (listing_exact_iff (foundDir_rootWith threeEntries)).mpr ⟨?_, nofun⟩
  rw [slotsOf_rootWith]
  decide +kernel

/-- **An entry is listed twice** that lies behind a free slot. -/
theorem entry_listed_twice : foundDir (rootWith (oneFile 1)) .mem rootDirInode =
      .ok newRootInode.recomputeChecksum ∧
    ¬Exact (rootWith (oneFile 1)) .mem rootDirInode newRootInode.recomputeChecksum 16 := by
  refine ⟨foundDir_rootWith _, fun he => ?_⟩
  have hpk := (he.packed (foundDir_rootWith _)).1
  rw [slotsOf_rootWith] at hpk
  exact absurd hpk (by decide +kernel)

end ProjectZero.Fs.Listing
