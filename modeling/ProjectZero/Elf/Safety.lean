import ProjectZero.Elf.Validate

/-! # What a validated executable guarantees

The segments of an accepted image are the loadable program headers, in order: inside the image, on
pages of their own in the user's range and off the stack, never writable and executable at once, with
the entry point in an executable one (`validateElf_safe`). -/

namespace ProjectZero.Elf.Safety

open Tables Lib.Layout Lib.Fallible Validate

variable {image : List Byte} {g : AddressSpaceGeometry} {ph : Elf64Phdr}

/-! ### What the image says -/

variable (image)

/-- The bytes of the image from `offset` on. -/
def view (offset n : ℕ) : Fin n → Byte := fun i => image.getD (offset + i) 0

def fileHeader : Elf64Ehdr := Elf64Ehdr.ofBytes (view image 0 64)

def programHeader (i : ℕ) : Elf64Phdr :=
  Elf64Phdr.ofBytes (view image ((fileHeader image).ePhoff + i * 56) 56)

/-- The least page boundary from `a` on. -/
def pageUp (a : ℕ) : ℕ := pageDown (a + 0xFFF)

/-- The segment of a header, with the pages it touches. -/
def segmentOf (ph : Elf64Phdr) : ValidatedSegment :=
  ph.segment (pageDown ph.pVaddr) (pageUp (ph.pVaddr + ph.pMemsz))

/-- The segments of the headers with the numbers `is`. -/
def segmentsOf (is : List ℕ) : List ValidatedSegment :=
  ((is.map (programHeader image)).filter fun ph => ph.pType = ptLoad).map segmentOf

/-- The segments of the `PT_LOAD` headers of the image. -/
def loadSegments : List ValidatedSegment :=
  segmentsOf image (List.range (fileHeader image).ePhnum)

variable {image}

/-! ### Safe segments -/

/-- A segment that can be loaded from the image. -/
structure SafeSegment (image : List Byte) (seg : ValidatedSegment) : Prop where
  inFile : seg.pOffset + seg.pFilesz ≤ image.length
  filesz_le : seg.pFilesz ≤ seg.pMemsz
  pageStart_eq : seg.pageStart = pageDown seg.pVaddr
  pageEnd_eq : seg.pageEnd = pageUp (seg.pVaddr + seg.pMemsz)
  user : userVaMin ≤ seg.pageStart ∧ seg.pageEnd ≤ userVaMaxExclusive
  offStack : seg.pageEnd ≤ userStackGuard ∨ userStackTop ≤ seg.pageStart
  notBoth : ¬(hasFlag seg.pFlags pfW ∧ hasFlag seg.pFlags pfX)
  congruent : seg.pVaddr % 4096 = seg.pOffset % 4096

/-- The pages of two segments are different. -/
def Apart (a b : ValidatedSegment) : Prop := a.pageEnd ≤ b.pageStart ∨ b.pageEnd ≤ a.pageStart

/-- The address is in an executable segment. -/
def Executable (segments : List ValidatedSegment) (a : ℕ) : Prop :=
  ∃ seg ∈ segments, hasFlag seg.pFlags pfX ∧ seg.pVaddr ≤ a ∧ a < seg.pVaddr + seg.pMemsz

/-- An image that is safe to load as the summary says. -/
structure SafeToLoad (image : List Byte) (s : ElfValidationSummary) : Prop where
  segments_eq : s.segments = loadSegments image
  entryPoint_eq : s.entryPoint = (fileHeader image).eEntry
  safe : ∀ seg ∈ s.segments, SafeSegment image seg
  apart : s.segments.Pairwise Apart
  entry : Executable s.segments s.entryPoint

/-! ### Words and bytes -/

lemma safe_checkedAdd (a b : ℕ) (e : ElfError) :
    Safe (checkedAdd a b e) fun c => c = a + b ∧ c < 2 ^ 64 :=
  safe_addWord fun _ => safe_throw e

lemma safe_checkedMul (a b : ℕ) (e : ElfError) :
    Safe (checkedMul a b e) fun c => c = a * b ∧ c < 2 ^ 64 :=
  safe_ite (fun h => safe_pure ⟨rfl, h⟩) fun _ => safe_throw e

variable {a b i : ℕ}

lemma safe_add (h : a + b < 2 ^ 64) : Safe (add a b) fun c => c = a + b :=
  (safe_addWord fun hover => absurd h (Nat.not_lt.mpr hover)).mono fun _ hc => hc.1

lemma safe_mul (h : a * b < 2 ^ 64) : Safe (mul a b) fun c => c = a * b := by
  rw [mul, if_pos h]
  exact safe_pure rfl

lemma safe_sub (h : b ≤ a) : Safe (sub a b) fun c => c = a - b := by
  rw [sub, if_pos h]
  exact safe_pure rfl

lemma safe_byteAt (h : i < image.length) : Safe (byteAt image i) fun _ => True := by
  rw [byteAt, dif_pos h]
  exact safe_pure trivial

lemma safe_slice (h : b ≤ image.length) : Safe (slice image a b) fun _ => True := by
  rw [slice, if_pos h]
  exact safe_pure trivial

lemma safe_deref {offset n : ℕ} (h : offset + n ≤ image.length) :
    Safe (deref image offset n) fun b => b = view image offset n := by
  rw [deref, dif_pos h]
  refine safe_pure (funext fun i => ?_)
  have hi : offset + i < image.length := by omega
  simp only [view, List.get_eq_getElem, List.getD_eq_getElem?_getD, List.getElem?_eq_getElem hi,
    Option.getD_some]

/-! ### The file header -/

lemma safe_checkIdent : Safe (checkIdent image) fun _ => 64 ≤ image.length := by
  refine safe_bind safe_rejectIf fun _ hlen => ?_
  have hlen : 64 ≤ image.length := Nat.le_of_not_lt hlen
  refine safe_bind (safe_slice (by omega)) fun _ _ => safe_bind safe_rejectIf fun _ _ => ?_
  refine safe_bind (safe_byteAt (by omega)) fun _ _ => safe_bind safe_rejectIf fun _ _ => ?_
  refine safe_bind (safe_byteAt (by omega)) fun _ _ => safe_bind safe_rejectIf fun _ _ => ?_
  refine safe_bind (safe_byteAt (by omega)) fun _ _ => safe_rejectIf.mono fun _ _ => hlen

/-- There are at most sixteen program headers, all of them in the image. -/
lemma safe_checkHeader (ehdr : Elf64Ehdr) : Safe (checkHeader image ehdr) fun _ =>
    ehdr.ePhnum ≤ maxProgramHeaders ∧ ehdr.ePhoff + ehdr.ePhnum * 56 ≤ image.length ∧
      ehdr.ePhoff + ehdr.ePhnum * 56 < 2 ^ 64 := by
  refine safe_bind safe_rejectIf fun _ _ => safe_bind safe_rejectIf fun _ _ => ?_
  refine safe_bind safe_rejectIf fun _ _ => safe_bind safe_rejectIf fun _ _ => ?_
  refine safe_bind safe_rejectIf fun _ hnum => ?_
  refine safe_bind (safe_checkedMul ..) fun _ ⟨hsize, _⟩ => ?_
  refine safe_bind (safe_checkedAdd ..) fun _ ⟨hend, hlt⟩ => ?_
  refine safe_rejectIf.mono fun _ hlen => ?_
  subst hsize hend
  exact ⟨Nat.le_of_not_lt fun h => hnum (.inr h), Nat.le_of_not_lt hlen, hlt⟩

/-! ### Program headers -/

lemma safe_checkFileRange :
    Safe (checkFileRange image ph) fun _ => ph.pOffset + ph.pFilesz ≤ image.length := by
  refine safe_bind (safe_checkedAdd ..) fun _ ⟨hend, _⟩ => ?_
  subst hend
  exact safe_rejectIf.mono fun _ h => Nat.le_of_not_lt h

lemma safe_checkAddresses : Safe (checkAddresses g ph) fun memEnd =>
    memEnd = ph.pVaddr + ph.pMemsz ∧ ph.pFilesz ≤ ph.pMemsz ∧ userVaMin ≤ ph.pVaddr ∧
      ph.pVaddr + ph.pMemsz ≤ userVaMaxExclusive := by
  refine safe_bind safe_rejectIf fun _ hsz => ?_
  refine safe_bind (safe_checkedAdd ..) fun memEnd ⟨hend, _⟩ => ?_
  refine safe_bind safe_rejectIf fun _ hrange => safe_bind safe_rejectIf fun _ _ => ?_
  subst hend
  have hpost : Safe (pure (ph.pVaddr + ph.pMemsz) : Validation ℕ) fun memEnd =>
      memEnd = ph.pVaddr + ph.pMemsz ∧ ph.pFilesz ≤ ph.pMemsz ∧ userVaMin ≤ ph.pVaddr ∧
        ph.pVaddr + ph.pMemsz ≤ userVaMaxExclusive := by
    refine safe_pure ⟨rfl, ?_, ?_, ?_⟩ <;> omega
  refine safe_ite (fun hpos => ?_) fun _ => hpost
  refine safe_bind (safe_sub (by omega)) fun _ _ => safe_bind safe_rejectIf fun _ _ => hpost

lemma safe_checkAlignment :
    Safe (checkAlignment ph) fun _ => ph.pVaddr % 4096 = ph.pOffset % 4096 := by
  have hpost : Safe (rejectIf (ph.pVaddr % 4096 ≠ ph.pOffset % 4096)
      .misalignedOffsetCongruence : Validation Unit) fun _ =>
      ph.pVaddr % 4096 = ph.pOffset % 4096 :=
    safe_rejectIf.mono fun _ h => not_not.mp h
  refine safe_ite (fun _ => ?_) fun _ => hpost
  exact safe_bind safe_rejectIf fun _ _ => safe_bind safe_rejectIf fun _ _ => hpost

lemma safe_checkPermissions : Safe (checkPermissions ph) fun _ =>
    ¬(hasFlag ph.pFlags pfW ∧ hasFlag ph.pFlags pfX) :=
  safe_bind safe_rejectIf fun _ h => safe_rejectIf.mono fun _ _ => h

lemma safe_pageRange {segments : List ValidatedSegment} : Safe (pageRange segments ph) fun r =>
    r = (pageDown ph.pVaddr, pageUp (ph.pVaddr + ph.pMemsz)) ∧
      (r.2 ≤ userStackGuard ∨ userStackTop ≤ r.1) ∧
      ∀ prev ∈ segments, prev.pageEnd ≤ r.1 ∨ r.2 ≤ prev.pageStart := by
  refine safe_bind (safe_checkedAdd ..) fun _ ⟨hend, _⟩ => ?_
  refine safe_bind (safe_checkedAdd ..) fun _ ⟨hround, _⟩ => ?_
  subst hend hround
  refine safe_bind safe_rejectIf fun _ hstack => safe_bind safe_rejectIf fun _ hprev => ?_
  refine safe_pure ⟨rfl, by dsimp only; omega, fun prev hmem => ?_⟩
  have hapart : ¬(pageDown ph.pVaddr < prev.pageEnd ∧
      pageUp (ph.pVaddr + ph.pMemsz) > prev.pageStart) := fun hover => hprev ⟨prev, hmem, hover⟩
  show prev.pageEnd ≤ pageDown ph.pVaddr ∨ pageUp (ph.pVaddr + ph.pMemsz) ≤ prev.pageStart
  omega

/-! ### The loop -/

/-- What holds after the headers with the numbers `is`. -/
structure Checked (image : List Byte) (is : List ℕ) (p : Progress) : Prop where
  segments_eq : p.segments = segmentsOf image is
  safe : ∀ seg ∈ p.segments, SafeSegment image seg
  apart : p.segments.Pairwise Apart
  entry : p.entryCovered → Executable p.segments (fileHeader image).eEntry

lemma length_segmentsOf_le (is : List ℕ) : (segmentsOf image is).length ≤ is.length := by
  rw [segmentsOf, List.length_map]
  exact (List.length_filter_le _ _).trans_eq (List.length_map _)

lemma segmentsOf_concat (is : List ℕ) (i : ℕ) : segmentsOf image (is ++ [i]) =
    segmentsOf image is ++
      if (programHeader image i).pType = ptLoad then [segmentOf (programHeader image i)] else [] := by
  simp only [segmentsOf, List.map_append, List.filter_append, List.map_cons, List.map_nil,
    List.filter_cons, List.filter_nil, decide_eq_true_eq]
  split <;> rfl

lemma Executable.append {segments : List ValidatedSegment} (seg : ValidatedSegment)
    (h : Executable segments a) : Executable (segments ++ [seg]) a := by
  obtain ⟨seg', hmem, hx⟩ := h
  exact ⟨seg', List.mem_append_left _ hmem, hx⟩

variable {is : List ℕ} {p : Progress}

/-- **One loadable segment** more. -/
lemma safe_loadSegment (hp : Checked image is p)
    (hlen : is.length < maxProgramHeaders) (hload : (programHeader image i).pType = ptLoad) :
    Safe (loadSegment image g (fileHeader image).eEntry (programHeader image i) p)
      (Checked image (is ++ [i])) := by
  refine safe_bind safe_checkFileRange fun _ hfile => ?_
  refine safe_bind safe_checkAddresses fun memEnd ⟨hend, hsz, hmin, hmax⟩ => ?_
  refine safe_bind safe_checkAlignment fun _ hcong => ?_
  refine safe_bind safe_checkPermissions fun _ hwx => ?_
  refine safe_bind safe_pageRange fun r ⟨hr, hstack, hprev⟩ => ?_
  subst hr hend
  have hroom : p.segments.length < maxProgramHeaders :=
    (hp.segments_eq ▸ length_segmentsOf_le is).trans_lt hlen
  refine safe_bind (safe_demand hroom) fun _ _ => safe_pure ?_
  have hseg : SafeSegment image (segmentOf (programHeader image i)) :=
    { inFile := hfile, filesz_le := hsz, pageStart_eq := rfl, pageEnd_eq := rfl
      user := by
        -- both bounds of the user's range are page boundaries
        have hlow : userVaMin ≤ pageDown (programHeader image i).pVaddr := by
          unfold userVaMin pageDown at *
          omega
        have hhigh : pageUp ((programHeader image i).pVaddr + (programHeader image i).pMemsz) ≤
            userVaMaxExclusive := by
          unfold userVaMaxExclusive pageUp pageDown at *
          omega
        exact ⟨hlow, hhigh⟩
      offStack := hstack, notBoth := hwx, congruent := hcong }
  refine { segments_eq := ?_, safe := ?_, apart := ?_, entry := ?_ }
  · rw [segmentsOf_concat, if_pos hload, ← hp.segments_eq]
    rfl
  · intro seg hmem
    rcases List.mem_append.mp hmem with hold | hnew
    · exact hp.safe seg hold
    · rw [List.mem_singleton.mp hnew]; exact hseg
  · refine List.pairwise_append.mpr ⟨hp.apart, List.pairwise_singleton _ _, ?_⟩
    intro prev hmem seg hnew
    rw [List.mem_singleton.mp hnew]
    exact hprev prev hmem
  intro hcov
  rcases Bool.or_eq_true_iff.mp hcov with hold | hnew
  · exact (hp.entry hold).append _
  rw [Bool.and_eq_true, Bool.and_eq_true, decide_eq_true_eq, decide_eq_true_eq] at hnew
  exact ⟨_, List.mem_append_right _ (List.mem_singleton_self _), hnew.1.1, hnew.1.2, hnew.2⟩

lemma Checked.skip (hp : Checked image is p)
    (hload : (programHeader image i).pType ≠ ptLoad) : Checked image (is ++ [i]) p := by
  refine { hp with segments_eq := ?_ }
  rw [segmentsOf_concat, if_neg hload, List.append_nil]
  exact hp.segments_eq

lemma safe_processHeader (hp : Checked image is p) (hlen : is.length < maxProgramHeaders) :
    Safe (processHeader image g (fileHeader image).eEntry (programHeader image i) p)
      (Checked image (is ++ [i])) := by
  refine safe_ite (safe_loadSegment hp hlen) fun hload => ?_
  have hskip := hp.skip hload
  refine safe_ite (fun _ => ?_) fun _ => safe_ite (fun _ => ?_) fun _ => safe_throw _
  · exact safe_bind safe_checkFileRange fun _ _ => safe_pure hskip
  · exact safe_bind safe_rejectIf fun _ _ => safe_pure hskip

lemma safe_readPhdr (himage : (fileHeader image).ePhoff + (i + 1) * 56 ≤ image.length)
    (hlt : (fileHeader image).ePhoff + (i + 1) * 56 < 2 ^ 64) :
    Safe (readPhdr image (fileHeader image).ePhoff i) fun ph => ph = programHeader image i := by
  refine safe_bind (safe_mul (by omega)) fun _ hmul => ?_
  subst hmul
  refine safe_bind (safe_add (by omega)) fun _ hadd => ?_
  subst hadd
  refine safe_bind (safe_deref (by omega)) fun _ hb => ?_
  subst hb
  exact safe_pure rfl

/-- **The loop** over the headers from the number `k` on, by induction on how many are left. -/
lemma safe_processHeaders {n : ℕ} (hn : n ≤ maxProgramHeaders)
    (himage : (fileHeader image).ePhoff + n * 56 ≤ image.length)
    (hlt : (fileHeader image).ePhoff + n * 56 < 2 ^ 64) :
    ∀ (m k : ℕ) (p : Progress), k + m = n → Checked image (List.range k) p →
      Safe (processHeaders image g (fileHeader image) (List.range' k m) p)
        (Checked image (List.range n))
  | 0, k, p, hk, hp => by
    rw [Nat.add_zero] at hk
    subst hk
    exact safe_pure hp
  | m + 1, k, p, hk, hp => by
    refine safe_bind (safe_readPhdr (by omega) (by omega)) fun ph hph => ?_
    subst hph
    refine safe_bind (safe_processHeader hp (by rw [List.length_range]; omega)) fun p' hp' => ?_
    rw [← List.range_succ] at hp'
    exact safe_processHeaders hn himage hlt m (k + 1) p' (by omega) hp'

lemma checked_nil : Checked image (List.range 0) ⟨[], false⟩ where
  segments_eq := rfl
  safe := fun _ h => by cases h
  apart := List.Pairwise.nil
  entry := fun h => by cases h

lemma safe_validateElf (g : AddressSpaceGeometry) (image : List Byte) :
    Safe (validateElf image g) (SafeToLoad image) := by
  refine safe_bind safe_checkIdent fun _ hlen => ?_
  refine safe_bind (safe_deref (by omega)) fun b hb => ?_
  subst hb
  refine safe_bind (safe_checkHeader (fileHeader image)) fun _ ⟨hnum, himage, hlt⟩ => ?_
  rw [List.range_eq_range']
  refine safe_bind (safe_processHeaders hnum himage hlt _ 0 _ (Nat.zero_add _) checked_nil)
    fun p hp => ?_
  refine safe_bind safe_rejectIf fun _ _ => safe_bind safe_rejectIf fun _ hentry => ?_
  have hcov : p.entryCovered := by
    by_contra h
    exact hentry (.inr (.inr (.inr (Bool.eq_false_iff.mpr h))))
  exact safe_pure ⟨hp.segments_eq, rfl, hp.safe, hp.apart, hp.entry hcov⟩

/-- **Validation.** Whatever the bytes of the image and the width of addresses, the validation reads
only bytes of the image and no arithmetic of it overflows; and an image it accepts is safe to load:
the segments are those of the loadable headers. -/
theorem validateElf_safe (g : AddressSpaceGeometry) (image : List Byte) :
    ∃ r, (validateElf image g).run = .ok r ∧ ∀ s, r = .ok s → SafeToLoad image s :=
  safe_validateElf g image

end ProjectZero.Elf.Safety
