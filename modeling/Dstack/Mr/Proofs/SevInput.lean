/-
Measuring a validated SEV-SNP input.

The measurement is a fold over one list of pages (`measuredPages`): what
the section loop and the vCPU loop hand to `Gctx::update`, in order. The
validator bounds the length of that list and leaves one way to fail, a
hash table that does not fit its page. It never looks at a guest address,
so the last page of a section can lie beyond the 64-bit address space
(`validated_input_measures`).
-/
import Dstack.Mr.Sev

namespace Dstack.Mr.Sev

open Lib

/-- The arguments of one `Gctx::update`. -/
structure PageInfo where
  pageType : UInt8
  gpa : Nat
  contents : Bytes

/-- The launch digest after a page. -/
def PageInfo.extend (ld : Bytes) (p : PageInfo) : Bytes :=
  gctxUpdate ld p.pageType p.gpa p.contents

def zeroPages (gpa len : Nat) : List PageInfo :=
  (List.range ((len + 4095) / 4096)).map fun i => ⟨0x03, gpa + i * 4096, zerosLd⟩

/-- The pages of a metadata section. -/
def sectionPages (page : Bytes) (s : MetadataSection) : List PageInfo :=
  match s.sectionType with
  | .snpSecMemory | .svsmCaa => zeroPages s.gpa s.size
  | .snpSecrets => [⟨0x05, s.gpa, zerosLd⟩]
  | .cpuid => [⟨0x06, s.gpa, zerosLd⟩]
  | .snpKernelHashes => [⟨0x01, s.gpa, sha384 page⟩]

namespace MeasurementInput

variable (input : MeasurementInput)

/-- The page with the hashes of kernel, initrd and command line. -/
def hashesPage : Result Bytes :=
  buildSevHashesPage input.kernelHash input.initrdHash
    (normalizeKernelCmdline input.baseCmdline) (input.sevHashesTableGpa % 4096)

/-- The metadata sections, as far as their types are known. -/
def sections : List MetadataSection :=
  input.ovmfSections.filterMap fun s => (resolveSection s).toOption

def vmsaPages (vcpuSig : Nat) : List PageInfo :=
  (List.range input.vcpus).map fun i => ⟨0x02, vmsaGpa, sha384 (if i = 0 then
    buildVmsaPage 0xfffffff0 vcpuSig input.guestFeatures
    else buildVmsaPage input.sevEsResetEip vcpuSig input.guestFeatures)⟩

/-- The pages measured after the firmware, in order. -/
def measuredPages (page : Bytes) (vcpuSig : Nat) : List PageInfo :=
  input.sections.flatMap (sectionPages page) ++ input.vmsaPages vcpuSig

end MeasurementInput

/-- Where in a section its last page begins. -/
def lastOffset (s : MetadataSection) : Nat :=
  match s.sectionType with
  | .snpSecMemory | .svsmCaa => (s.size - 1) / 4096 * 4096
  | _ => 0

-- == the pages of one section

lemma mem_zeroPages {gpa len : Nat} {p : PageInfo} (h : p ∈ zeroPages gpa len) :
    ∃ i < (len + 4095) / 4096, p.gpa = gpa + i * 4096 := by
  obtain ⟨i, hi, rfl⟩ := List.mem_map.mp h
  exact ⟨i, List.mem_range.mp hi, rfl⟩

lemma sectionPages_gpa {page : Bytes} {s : MetadataSection} {p : PageInfo}
    (h : p ∈ sectionPages page s) :
    s.gpa ≤ p.gpa ∧ p.gpa ≤ s.gpa + lastOffset s := by
  unfold sectionPages at h
  unfold lastOffset
  split at h
  case' h_1 | h_2 =>
    rename_i htype
    obtain ⟨i, hi, hgpa⟩ := mem_zeroPages h
    simp only [htype]
    omega
  all_goals
    rw [List.mem_singleton] at h
    subst h
    exact ⟨Nat.le_refl _, Nat.le_add_right ..⟩

lemma lastOffset_lt {s : MetadataSection} (hsize : s.size ≠ 0) :
    lastOffset s < s.size := by
  unfold lastOffset
  split <;> omega

lemma exists_lastPage (page : Bytes) {s : MetadataSection} (hsize : s.size ≠ 0) :
    ∃ p ∈ sectionPages page s, p.gpa = s.gpa + lastOffset s := by
  unfold sectionPages lastOffset
  cases s.sectionType
  case snpSecMemory | svsmCaa =>
    refine ⟨⟨0x03, s.gpa + (s.size - 1) / 4096 * 4096, zerosLd⟩, ?_, rfl⟩
    exact List.mem_map.mpr ⟨(s.size - 1) / 4096, List.mem_range.mpr (by omega), rfl⟩
  all_goals exact ⟨_, List.mem_singleton.mpr rfl, rfl⟩

lemma sectionPages_length {page : Bytes} {s : MetadataSection} (hsize : s.size ≠ 0) :
    (sectionPages page s).length ≤ (s.size + 4095) / 4096 := by
  unfold sectionPages
  split <;> simp [zeroPages] <;> omega

-- == the section loop

lemma decodeHash_of_optional {name value : String} {bytes : Bytes}
    (hne : value ≠ "") (h : decodeOptionalHex name value 32 = .ok bytes) :
    decodeHash name value = .ok bytes ∧ bytes.length = 32 := by
  simp only [decodeOptionalHex, if_neg hne, ok_iff, mapError_eq_ok] at h
  obtain ⟨_, hdecode, u, hlen, rfl⟩ := h
  exact ⟨bind_eq_ok.mpr ⟨_, context_eq_ok.mpr hdecode,
    bind_eq_ok.mpr ⟨u, ensure_eq_ok.mpr hlen, rfl⟩⟩, hlen⟩

lemma hashesPage_eq {input : MeasurementInput} {kernel initrd : Bytes}
    (hkernel : decodeRequiredHex "kernel_hash" input.kernelHash 32 = .ok kernel)
    (hinitrd : decodeOptionalHex "initrd_hash" input.initrdHash 32 = .ok initrd) :
    ∃ table : Bytes, table.length = 168 ∧ input.hashesPage = (do
      Result.ensure (input.sevHashesTableGpa % 4096 + 176 ≤ 4096)
        "sev hash table overflows 4096-byte page"
      pure (writeAt (zeros 4096) (input.sevHashesTableGpa % 4096) table)) := by
  obtain ⟨_, hne, hkernel⟩ := bind_eq_ok.mp hkernel
  obtain ⟨hkernel, hklen⟩ := decodeHash_of_optional (ensure_eq_ok.mp hne) hkernel
  unfold MeasurementInput.hashesPage buildSevHashesPage
  rw [hkernel]
  by_cases hempty : input.initrdHash = ""
  · simp only [if_pos hempty]
    exact ⟨_, by simp [sevEntry, guidLeHashTableHeader, guidLeKernelEntry,
      guidLeInitrdEntry, guidLeCmdlineEntry, hklen, sha256_length], rfl⟩
  · obtain ⟨hinitrd, hilen⟩ := decodeHash_of_optional hempty hinitrd
    simp only [if_neg hempty, hinitrd]
    exact ⟨_, by simp [sevEntry, guidLeHashTableHeader, guidLeKernelEntry,
      guidLeInitrdEntry, guidLeCmdlineEntry, hklen, hilen, sha256_length], rfl⟩

lemma measureSection_eq {input : MeasurementInput} (hgpa : input.sevHashesTableGpa ≠ 0)
    {page : Bytes} (hpage : input.hashesPage = .ok page) (hlen : page.length = 4096)
    (ld : Bytes) (b : Bool) (s : MetadataSection) :
    measureSection input (ld, b) s = .ok ((sectionPages page s).foldl PageInfo.extend ld,
      b || s.sectionType = .snpKernelHashes) := by
  have hchunk : page.take 4096 = page := List.take_of_length_le (Nat.le_of_eq hlen)
  cases htype : s.sectionType
  case snpKernelHashes =>
    rw [MeasurementInput.hashesPage] at hpage
    simp only [measureSection, sectionPages, htype, ok_iff]
    refine ⟨(), hgpa, page, hpage, ?_⟩
    simp [updateNormalPages, hlen, hchunk, PageInfo.extend]
  all_goals
    simp [measureSection, sectionPages, htype, updateZeroPages, zeroPages,
      updateSecretsPage, updateCpuidPage, List.foldl_map, PageInfo.extend]

lemma measureSections_eq {input : MeasurementInput} (hgpa : input.sevHashesTableGpa ≠ 0)
    {page : Bytes} (hpage : input.hashesPage = .ok page) (hlen : page.length = 4096) :
    ∀ (sections : List MetadataSection) (ld : Bytes) (b : Bool),
      sections.foldlM (measureSection input) (ld, b)
        = .ok ((sections.flatMap (sectionPages page)).foldl PageInfo.extend ld,
          b || sections.any (·.sectionType = .snpKernelHashes)) := by
  intro sections
  induction sections with
  | nil => intro ld b; simp [pure, Except.pure]
  | cons s rest ih =>
    intro ld b
    rw [List.foldlM_cons, measureSection_eq hgpa hpage hlen, List.flatMap_cons,
      List.foldl_append, List.any_cons, ← Bool.or_assoc]
    exact ih _ _

lemma measureSections_fails {input : MeasurementInput} {e : String}
    (hpage : input.hashesPage = .error e) :
    ∀ {sections : List MetadataSection}, (∃ s ∈ sections, s.sectionType = .snpKernelHashes) →
      ∀ (acc r : Bytes × Bool), sections.foldlM (measureSection input) acc ≠ .ok r := by
  intro sections
  induction sections with
  | nil => simp
  | cons s rest ih =>
    intro hsome acc r h
    rw [List.foldlM_cons, bind_eq_ok] at h
    obtain ⟨acc', hstep, hrest⟩ := h
    by_cases htype : s.sectionType = .snpKernelHashes
    · simp only [measureSection, htype, bind_eq_ok] at hstep
      obtain ⟨_, -, page, hok, -⟩ := hstep
      cases hpage.symm.trans hok
    · refine ih ?_ acc' r hrest
      obtain ⟨s', hmem, hs'⟩ := hsome
      exact ⟨s', (List.mem_cons.mp hmem).resolve_left fun h => htype (h ▸ hs'), hs'⟩

-- == what the validator checks

lemma checkSections_ok :
    ∀ {l : List OvmfSection} {n : Nat} {b b' : Bool}, checkSections n b l = .ok b' →
      n ≤ maxOvmfMetadataPages →
      ∃ l' : List MetadataSection, l.mapM resolveSection = .ok l' ∧
        (∀ s ∈ l', s.size ≠ 0) ∧
        n + (l'.map fun s => (s.size + 4095) / 4096).sum ≤ maxOvmfMetadataPages ∧
        b' = (b || l'.any (·.sectionType = .snpKernelHashes)) := by
  intro l
  induction l with
  | nil =>
    intro n b b' h hn
    exact ⟨[], rfl, by simp, by simpa using hn, by simpa [checkSections, eq_comm] using h⟩
  | cons s rest ih =>
    intro n b b' h hn
    simp only [checkSections, ok_iff] at h
    obtain ⟨_, hsize, _, -, _, hle, t, htype, hrest⟩ := h
    obtain ⟨l', hl', hsizes, hsum, hany⟩ := ih hrest hle
    refine ⟨⟨s.gpa, s.size, t⟩ :: l', ?_, ?_, ?_, ?_⟩
    · simp [List.mapM_cons, resolveSection, htype, Result.ofOption, hl', bind,
        Except.bind, pure, Except.pure]
    · simpa using ⟨hsize, hsizes⟩
    · simpa [Nat.add_assoc] using hsum
    · rw [hany, List.any_cons, Bool.or_assoc]

lemma sections_eq {input : MeasurementInput} {l : List MetadataSection}
    (h : input.ovmfSections.mapM resolveSection = .ok l) : input.sections = l := by
  unfold MeasurementInput.sections
  generalize input.ovmfSections = raw at h ⊢
  rw [mapM_eq_ok] at h
  induction h with
  | nil => rfl
  | cons hab _ ih => rw [List.filterMap_cons, hab, ih]; rfl

lemma flatMap_pages_length (page : Bytes) {l : List MetadataSection}
    (hsize : ∀ s ∈ l, s.size ≠ 0) :
    (l.flatMap (sectionPages page)).length
      ≤ (l.map fun s => (s.size + 4095) / 4096).sum := by
  induction l with
  | nil => exact Nat.le_refl _
  | cons s l ih =>
    obtain ⟨hs, hl⟩ := List.forall_mem_cons.mp hsize
    rw [List.flatMap_cons, List.length_append, List.map_cons, List.sum_cons]
    exact Nat.add_le_add (sectionPages_length hs) (ih hl)

lemma validateMeasurementInput_ok {input : MeasurementInput}
    (h : validateMeasurementInput input = .ok ()) :
    (∃ kernel, decodeRequiredHex "kernel_hash" input.kernelHash 32 = .ok kernel) ∧
    (∃ initrd, decodeOptionalHex "initrd_hash" input.initrdHash 32 = .ok initrd) ∧
    input.vcpus ≤ maxVcpus ∧
    (∃ t sig, input.vcpuType = some t ∧ vcpuSigFromType t = .ok sig) ∧
    (∃ ovmf, gctxFromOvmfHash input.ovmfHash = .ok ovmf) ∧
    input.sevHashesTableGpa ≠ 0 ∧ checkSections 0 false input.ovmfSections = .ok true := by
  unfold validateMeasurementInput at h
  simp only [ok_iff] at h
  obtain ⟨_, -, _, -, _, -, kernel, hkernel, initrd, hinitrd, _, -, _, hvcpus, _, htype, _,
    -, ovmf, hovmf, _, -, _, hgpa, _, -, b, hsections, hb⟩ := h
  refine ⟨⟨kernel, hkernel⟩, ⟨initrd, hinitrd⟩, hvcpus, ?_, ?_, hgpa, hb ▸ hsections⟩
  · cases hv : input.vcpuType with
    | none => rw [hv] at htype; cases htype
    | some t =>
      rw [hv, checkVcpuType] at htype
      split at htype
      · obtain ⟨sig, hsig, -⟩ := map_eq_ok.mp htype
        exact ⟨t, sig, rfl, hsig⟩
      · cases htype
  · simp only [decodeRequiredHex, decodeOptionalHex, ok_iff] at hovmf
    obtain ⟨_, hne, hovmf⟩ := hovmf
    simp only [if_neg hne, ok_iff, mapError_eq_ok] at hovmf
    obtain ⟨raw, hraw, u, hlen, rfl⟩ := hovmf
    exact ⟨_, by simp [gctxFromOvmfHash, hraw, Result.context, Result.ensure, hlen, bind,
      Except.bind, pure, Except.pure]; rfl⟩

-- == the measurement

lemma computeExpectedMeasurement_eq {input : MeasurementInput}
    {l : List MetadataSection} {ovmf page : Bytes} {t : String} {sig : Nat}
    (ht : input.vcpuType = some t) (hsig : vcpuSigFromType t = .ok sig)
    (hl : input.ovmfSections.mapM resolveSection = .ok l)
    (hovmf : gctxFromOvmfHash input.ovmfHash = .ok ovmf)
    (hgpa : input.sevHashesTableGpa ≠ 0) (hpage : input.hashesPage = .ok page)
    (hlen : page.length = 4096) (hany : l.any (·.sectionType = .snpKernelHashes) = true) :
    computeExpectedMeasurement input
      = .ok ((input.measuredPages page sig).foldl PageInfo.extend ovmf) := by
  unfold computeExpectedMeasurement
  simp only [ok_iff]
  refine ⟨t, ht, l, hl, ovmf, hovmf, _, measureSections_eq hgpa hpage hlen l ovmf false, (),
    hany, sig, hsig, ?_⟩
  rw [MeasurementInput.measuredPages, sections_eq hl, List.foldl_append,
    MeasurementInput.vmsaPages, List.foldl_map]
  rfl

lemma computeExpectedMeasurement_fails {input : MeasurementInput}
    {l : List MetadataSection} {e : String}
    (hl : input.ovmfSections.mapM resolveSection = .ok l)
    (hpage : input.hashesPage = .error e)
    (hany : l.any (·.sectionType = .snpKernelHashes) = true) (m : Bytes) :
    computeExpectedMeasurement input ≠ .ok m := by
  intro h
  unfold computeExpectedMeasurement at h
  simp only [bind_eq_ok] at h
  obtain ⟨_, -, l', hl', _, -, r, hr, -⟩ := h
  cases hl.symm.trans hl'
  exact measureSections_fails hpage (by simpa using hany) _ r hr

lemma measuredPages_gpa {input : MeasurementInput} (page : Bytes) (sig : Nat)
    (hsize : ∀ s ∈ input.sections, s.size ≠ 0) :
    (∀ p ∈ input.measuredPages page sig, p.gpa < 2 ^ 64)
      ↔ ∀ s ∈ input.sections, s.gpa + lastOffset s < 2 ^ 64 := by
  constructor
  · intro h s hs
    obtain ⟨p, hp, hlast⟩ := exists_lastPage page (hsize s hs)
    rw [← hlast]
    exact h p (List.mem_append_left _ (List.mem_flatMap.mpr ⟨s, hs, hp⟩))
  · intro h p hp
    rcases List.mem_append.mp hp with hp | hp
    · obtain ⟨s, hs, hp⟩ := List.mem_flatMap.mp hp
      exact Nat.lt_of_le_of_lt (sectionPages_gpa hp).2 (h s hs)
    · obtain ⟨i, -, rfl⟩ := List.mem_map.mp hp
      show vmsaGpa < 2 ^ 64
      decide

/-- What a validated input measures. Everything holds but the address
bound, and that holds exactly when no section's last page starts beyond
the address space. -/
theorem validated_input_measures {input : MeasurementInput}
    (h : validateMeasurementInput input = .ok ()) :
    ((∃ e, computeExpectedMeasurement input = .error e)
      ↔ 4096 < input.sevHashesTableGpa % 4096 + 176) ∧
    (∀ m, computeExpectedMeasurement input = .ok m → ∃ ovmf page t sig,
      gctxFromOvmfHash input.ovmfHash = .ok ovmf ∧ input.hashesPage = .ok page ∧
      input.vcpuType = some t ∧ vcpuSigFromType t = .ok sig ∧
      m = (input.measuredPages page sig).foldl PageInfo.extend ovmf) ∧
    ∀ page sig,
      (input.measuredPages page sig).length ≤ maxOvmfMetadataPages + maxVcpus ∧
      (∀ s ∈ input.sections, ∀ p ∈ sectionPages page s,
        s.gpa ≤ p.gpa ∧ p.gpa < s.gpa + s.size) ∧
      ((∀ p ∈ input.measuredPages page sig, p.gpa < 2 ^ 64)
        ↔ ∀ s ∈ input.sections, s.gpa + lastOffset s < 2 ^ 64) := by
  obtain ⟨⟨kernel, hkernel⟩, ⟨initrd, hinitrd⟩, hvcpus, ⟨t, sig, ht, hsig⟩, ⟨ovmf, hovmf⟩,
    hgpa, hcheck⟩ := validateMeasurementInput_ok h
  obtain ⟨l, hl, hsize, hsum, hany⟩ := checkSections_ok hcheck (Nat.zero_le _)
  rw [Bool.false_or, eq_comm] at hany
  obtain ⟨table, htable, hpage⟩ := hashesPage_eq hkernel hinitrd
  have hsections := sections_eq hl
  have hcounts : ∀ page sig, (input.measuredPages page sig).length
      ≤ maxOvmfMetadataPages + maxVcpus := by
    intro page sig
    have hpages := flatMap_pages_length page hsize
    rw [MeasurementInput.measuredPages, List.length_append, hsections,
      MeasurementInput.vmsaPages, List.length_map, List.length_range]
    omega
  have hrange : ∀ page, ∀ s ∈ input.sections, ∀ p ∈ sectionPages page s,
      s.gpa ≤ p.gpa ∧ p.gpa < s.gpa + s.size := by
    intro page s hs p hp
    have hlast := lastOffset_lt (hsize s (hsections ▸ hs))
    have hbounds := sectionPages_gpa hp
    omega
  have hrun : (input.sevHashesTableGpa % 4096 + 176 ≤ 4096 ∧ ∃ page,
        input.hashesPage = .ok page ∧ computeExpectedMeasurement input
          = .ok ((input.measuredPages page sig).foldl PageInfo.extend ovmf)) ∨
      (4096 < input.sevHashesTableGpa % 4096 + 176 ∧ ∀ m,
        computeExpectedMeasurement input ≠ .ok m) := by
    by_cases hfit : input.sevHashesTableGpa % 4096 + 176 ≤ 4096
    · have hlen : (writeAt (zeros 4096) (input.sevHashesTableGpa % 4096) table).length
          = 4096 := by
        simp [writeAt, htable]
        omega
      rw [Result.ensure, if_pos hfit] at hpage
      exact .inl ⟨hfit, _, hpage,
        computeExpectedMeasurement_eq ht hsig hl hovmf hgpa hpage hlen hany⟩
    · rw [Result.ensure, if_neg hfit] at hpage
      exact .inr ⟨Nat.lt_of_not_le hfit, computeExpectedMeasurement_fails hl hpage hany⟩
  refine ⟨?_, ?_, fun page sig => ⟨hcounts page sig, hrange page,
    measuredPages_gpa page sig (hsections ▸ hsize)⟩⟩
  · rcases hrun with ⟨hfit, page, -, hok⟩ | ⟨hfit, hno⟩
    · simp [hok, hfit]
    · refine iff_of_true ?_ hfit
      cases hm : computeExpectedMeasurement input with
      | error e => exact ⟨e, rfl⟩
      | ok m => exact absurd hm (hno m)
  · intro m hm
    rcases hrun with ⟨-, page, hpage, hok⟩ | ⟨-, hno⟩
    · exact ⟨ovmf, page, t, sig, hovmf, hpage, ht, hsig, Except.ok.inj (hm.symm.trans hok)⟩
    · exact absurd hm (hno m)

def sampleLaunch (gpa size : Nat) : MeasurementInput where
  baseCmdline := "dstack.rootfs_hash=" ++ hexEncode (zeros 32)
  ovmfHash := hexEncode (zeros 48)
  kernelHash := hexEncode (zeros 32)
  initrdHash := ""
  sevHashesTableGpa := 0x1000
  sevEsResetEip := 0x2000
  vcpus := 1
  vcpuType := some "EPYC-v4"
  guestFeatures := 1
  ovmfSections := [⟨gpa, size, 1⟩, ⟨0x1000, 0x1000, 0x10⟩]

/-- Two pages of memory and the page with the hashes. -/
theorem sampleLaunch_measures :
    (∃ m, computeExpectedMeasurement (sampleLaunch 0x800000 0x2000) = .ok m) ∧
    ∀ page sig, ∀ p ∈ (sampleLaunch 0x800000 0x2000).measuredPages page sig,
      p.gpa < 2 ^ 64 := by
  obtain ⟨herror, -, hpages⟩ := @validated_input_measures
    (sampleLaunch 0x800000 0x2000) (by decide +kernel)
  refine ⟨?_, fun page sig => (hpages page sig).2.2.mpr (by decide +kernel)⟩
  cases hm : computeExpectedMeasurement (sampleLaunch 0x800000 0x2000) with
  | ok m => exact ⟨m, rfl⟩
  | error e => exact absurd (herror.mp ⟨e, hm⟩) (by decide)

/-- Two pages from the last page of the address space on: the second one
would be at address 2^64. -/
theorem sampleLaunch_overflows :
    validateMeasurementInput (sampleLaunch 0xfffffffffffff000 0x2000) = .ok () ∧
    ∀ page sig, ∃ p ∈ (sampleLaunch 0xfffffffffffff000 0x2000).measuredPages page sig,
      p.gpa = 2 ^ 64 := by
  refine ⟨by decide +kernel, fun page sig => ?_⟩
  have hmem : (⟨0xfffffffffffff000, 0x2000, .snpSecMemory⟩ : MetadataSection)
      ∈ (sampleLaunch 0xfffffffffffff000 0x2000).sections := by decide +kernel
  obtain ⟨p, hp, hgpa⟩ := exists_lastPage page
    (s := ⟨0xfffffffffffff000, 0x2000, .snpSecMemory⟩) (by decide)
  exact ⟨p, List.mem_append_left _ (List.mem_flatMap.mpr ⟨_, hmem, hp⟩), hgpa⟩

end Dstack.Mr.Sev
