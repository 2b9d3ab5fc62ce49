/-
What an accepted firmware is measured as.

A firmware that parses has sections whose pages and data lie where the
metadata says (`parse_wellFormed`), so the loops of `computeMrtd` never
fail and hash exactly the records of the section table
(`computeMrtd_eq`). The records are stated here on their own, section by
section and page by page, in both orders a VMM may add pages in.
-/
import Dstack.Mr.Tdx

namespace Dstack.Mr

open Lib

-- == accepted metadata

structure TdvfSection.Valid (fwLen : Nat) (s : TdvfSection) : Prop where
  address_aligned : s.memoryAddress % pageSize = 0
  size_aligned : s.memoryDataSize % pageSize = 0
  address_fits : s.memoryAddress + s.memoryDataSize < 2 ^ 64
  data_inside : s.dataOffset + s.measuredSize ≤ fwLen

structure Tdvf.WellFormed (t : Tdvf) : Prop where
  sections_valid : ∀ s ∈ t.sections, s.Valid t.fw.length
  sections_le : t.sections.length ≤ maxTdvfSections

lemma TdvfSection.check_valid {fwLen i : Nat} {s : TdvfSection} {u : Unit}
    (h : s.check fwLen i = .ok u) : s.Valid fwLen := by
  unfold TdvfSection.check at h
  simp only [ok_iff, checkedAdd_eq_some, Option.isSome_iff_exists] at h
  obtain ⟨_, haddr, _, -, _, hsize, _, -, dataEnd, ⟨-, rfl⟩, _, hdata, c, hfits, -⟩ := h
  exact ⟨haddr, hsize, hfits, Nat.not_lt.mp hdata⟩

lemma parseSections_valid {fw : Bytes} {off : Nat} :
    ∀ {is : List Nat} {total : Nat} {ss : List TdvfSection},
      parseSections fw off total is = .ok ss →
      (∀ s ∈ ss, s.Valid fw.length) ∧ ss.length = is.length := by
  intro is
  induction is with
  | nil =>
    intro total ss h
    cases h
    exact ⟨by simp, rfl⟩
  | cons i is ih =>
    intro total ss h
    simp only [parseSections, ok_iff] at h
    obtain ⟨record, -, _, hcheck, pages, -, _, -, rest, hrest, rfl⟩ := h
    obtain ⟨hvalid, hlen⟩ := ih hrest
    refine ⟨?_, by simp [hlen]⟩
    intro s hs
    rcases List.mem_cons.mp hs with rfl | hs
    · exact TdvfSection.check_valid hcheck
    · exact hvalid s hs

variable {t : Tdvf}

lemma Tdvf.parse_wellFormed {fw : Bytes} (h : Tdvf.parse fw = .ok t) :
    t.fw = fw ∧ t.WellFormed := by
  unfold Tdvf.parse at h
  simp only [ok_iff] at h
  obtain ⟨off, -, descriptor, -, _, -, _, -, _, hnum, ss, hss, rfl⟩ := h
  obtain ⟨hvalid, hlen⟩ := parseSections_valid hss
  refine ⟨rfl, hvalid, ?_⟩
  rw [List.length_range] at hlen
  rw [hlen]
  exact Nat.not_lt.mp hnum

-- == records

namespace Tdvf

def pageAddRecords (s : TdvfSection) (page : Nat) : Bytes :=
  if s.pageAug then []
  else mrtdRecord "MEM.PAGE.ADD" (s.memoryAddress + page * pageSize)

/-- The record of one measured chunk and the firmware bytes it covers, at
an offset in the section. -/
def chunkRecord (fw : Bytes) (s : TdvfSection) (offset : Nat) : Bytes :=
  mrtdRecord "MR.EXTEND" (s.memoryAddress + offset)
    ++ (fw.drop (s.dataOffset + offset)).take mrExtendGranularity

def extendRecords (fw : Bytes) (s : TdvfSection) (page : Nat) : Bytes :=
  if s.mrExtends then
    (List.range 16).flatMap fun i => chunkRecord fw s (page * pageSize + i * 0x100)
  else []

def sectionRecords (fw : Bytes) (order : PageAddOrder) (s : TdvfSection) : Bytes :=
  let pages := List.range s.numPages
  match order with
  | .singlePass => pages.flatMap fun p => pageAddRecords s p ++ extendRecords fw s p
  | .twoPass => pages.flatMap (pageAddRecords s) ++ pages.flatMap (extendRecords fw s)

/-- What is hashed into MRTD, section by section. -/
def records (t : Tdvf) (order : PageAddOrder) : Bytes :=
  t.sections.flatMap (sectionRecords t.fw order)

-- == loops succeed

lemma foldlM_append {α : Type} {step : Bytes → α → Result Bytes} {piece : α → Bytes} :
    ∀ {l : List α} (h : Bytes),
      (∀ a ∈ l, ∀ h, step h a = .ok (h ++ piece a)) →
      l.foldlM step h = .ok (h ++ l.flatMap piece) := by
  intro l
  induction l with
  | nil =>
    intro h _
    simp [List.foldlM, pure, Except.pure]
  | cons a l ih =>
    intro h hstep
    rw [List.foldlM_cons, hstep a List.mem_cons_self]
    show l.foldlM step (h ++ piece a) = _
    rw [ih _ fun b hb => hstep b (List.mem_cons_of_mem _ hb), List.flatMap_cons,
      List.append_assoc]

lemma guestAddress_ok {s : TdvfSection} {page offset : Nat}
    (h : s.memoryAddress + (page * pageSize + offset) < 2 ^ 64) :
    guestAddress s page offset
      = .ok (s.memoryAddress + (page * pageSize + offset)) := by
  have hmul : checkedMul page pageSize = some (page * pageSize) :=
    checkedMul_eq_some.mpr ⟨by omega, rfl⟩
  have hoff : checkedAdd (page * pageSize) offset = some (page * pageSize + offset) :=
    checkedAdd_eq_some.mpr ⟨by omega, rfl⟩
  have hadd := checkedAdd_eq_some.mpr ⟨h, rfl⟩
  simp only [guestAddress, hmul, hoff, Option.bind_some, hadd]
  rfl

variable {t : Tdvf} {s : TdvfSection} {page : Nat}

lemma page_inside (hs : s.Valid t.fw.length) (hp : page < s.numPages) :
    page * pageSize + pageSize ≤ s.memoryDataSize := by
  have hsize := hs.size_aligned
  simp only [TdvfSection.numPages, pageSize] at hp hsize ⊢
  omega

lemma memPageAdd_ok (hs : s.Valid t.fw.length) (hp : page < s.numPages)
    (h : Bytes) : memPageAdd s h page = .ok (h ++ pageAddRecords s page) := by
  have hinside := page_inside hs hp
  have hfits := hs.address_fits
  unfold memPageAdd pageAddRecords TdvfSection.pageAug
  by_cases haug : s.attributes &&& attributePageAug = 0
  · have hgpa : guestAddress s page 0
        = .ok (s.memoryAddress + (page * pageSize + 0)) :=
      guestAddress_ok (by simp only [pageSize] at hinside ⊢; omega)
    rw [if_pos haug, hgpa]
    simp [haug, bind, Except.bind, pure, Except.pure]
  · rw [if_neg haug]
    simp [haug]

lemma mrExtendChunk_ok (hs : s.Valid t.fw.length) (hp : page < s.numPages)
    (hext : s.mrExtends = true) {i : Nat} (hi : i < 16) (h : Bytes) :
    t.mrExtendChunk s page h i
      = .ok (h ++ chunkRecord t.fw s (page * pageSize + i * 0x100)) := by
  have hinside := page_inside hs hp
  have hfits := hs.address_fits
  have hdata := hs.data_inside
  rw [TdvfSection.measuredSize, if_pos hext] at hdata
  simp only [pageSize] at hinside
  have hgpa : guestAddress s page (i * mrExtendGranularity)
      = .ok (s.memoryAddress + (page * pageSize + i * mrExtendGranularity)) :=
    guestAddress_ok (by simp only [pageSize, mrExtendGranularity]; omega)
  have hslice : slice t.fw
      (s.dataOffset + page * pageSize + i * mrExtendGranularity)
      (s.dataOffset + page * pageSize + i * mrExtendGranularity
        + mrExtendGranularity)
      = some ((t.fw.drop (s.dataOffset + (page * pageSize + i * 0x100))).take
          mrExtendGranularity) := by
    rw [slice_eq_some]
    refine ⟨by omega, by simp only [pageSize, mrExtendGranularity]; omega, ?_⟩
    rw [Nat.add_sub_cancel_left, Nat.add_assoc]
    rfl
  simp only [mrExtendChunk, hgpa, hslice, bind, Except.bind, Result.ofOption,
    pure, Except.pure, chunkRecord, List.append_assoc]
  rfl

lemma mrExtend_ok (hs : s.Valid t.fw.length) (hp : page < s.numPages) (h : Bytes) :
    t.mrExtend s h page = .ok (h ++ extendRecords t.fw s page) := by
  unfold mrExtend extendRecords
  by_cases hext : s.attributes &&& attributeMrExtend ≠ 0
  · have hmr : s.mrExtends = true := by simpa [TdvfSection.mrExtends] using hext
    rw [if_pos hext, if_pos hmr]
    refine foldlM_append h ?_
    intro i hi h'
    have hi' : i < 16 := List.mem_range.mp hi
    exact mrExtendChunk_ok hs hp hmr hi' h'
  · have hmr : ¬ s.mrExtends = true := by simpa [TdvfSection.mrExtends] using hext
    rw [if_neg hext, if_neg hmr, List.append_nil]

lemma addSection_ok (hs : s.Valid t.fw.length) (order : PageAddOrder) (h : Bytes) :
    t.addSection order h s = .ok (h ++ sectionRecords t.fw order s) := by
  have hpage : ∀ p ∈ List.range s.numPages, p < s.numPages :=
    fun p hp => List.mem_range.mp hp
  cases order with
  | twoPass =>
    show (List.range s.numPages).foldlM (memPageAdd s) h >>= _ = _
    rw [foldlM_append h fun p hp h' => memPageAdd_ok hs (hpage p hp) h']
    show (List.range s.numPages).foldlM (t.mrExtend s) _ = _
    rw [foldlM_append _ fun p hp h' => mrExtend_ok hs (hpage p hp) h',
      List.append_assoc]
    rfl
  | singlePass =>
    refine foldlM_append h ?_
    intro p hp h'
    rw [memPageAdd_ok hs (hpage p hp)]
    show t.mrExtend s (h' ++ pageAddRecords s p) p = _
    rw [mrExtend_ok hs (hpage p hp), List.append_assoc]

lemma computeMrtd_eq (ht : t.WellFormed) (order : PageAddOrder) :
    t.computeMrtd order = .ok (sha384 (t.records order)) := by
  unfold computeMrtd
  rw [foldlM_append [] fun s hs h =>
    addSection_ok (ht.sections_valid s hs) order h]
  rfl

lemma parseSections_pages {fw : Bytes} {off : Nat} :
    ∀ {is : List Nat} {total : Nat} {ss : List TdvfSection},
      parseSections fw off total is = .ok ss → total ≤ maxMeasuredPages →
      total + (ss.map TdvfSection.numPages).sum ≤ maxMeasuredPages := by
  intro is
  induction is with
  | nil =>
    intro total ss h htotal
    cases h
    simpa using htotal
  | cons i is ih =>
    intro total ss h _
    simp only [parseSections, ok_iff, checkedAdd_eq_some] at h
    obtain ⟨record, -, _, -, pages, ⟨-, rfl⟩, _, hle, rest, hrest, rfl⟩ := h
    have hsum := ih hrest (Nat.not_lt.mp hle)
    rw [List.map_cons, List.sum_cons]
    omega

/-- A firmware that parses is measured, in either order, as the records of
its sections; no more pages are hashed than the parser allows, no byte
outside the firmware is, and no guest address wraps. -/
theorem accepted_firmware_is_measured {fw : Bytes} (h : Tdvf.parse fw = .ok t)
    (order : PageAddOrder) :
    t.computeMrtd order = .ok (sha384 (t.records order))
      ∧ (t.sections.map TdvfSection.numPages).sum ≤ maxMeasuredPages
      ∧ ∀ s ∈ t.sections, ∀ page < s.numPages,
        s.memoryAddress + (page + 1) * pageSize < 2 ^ 64
        ∧ (s.mrExtends = true → s.dataOffset + (page + 1) * pageSize ≤ fw.length) := by
  obtain ⟨rfl, ht⟩ := parse_wellFormed h
  refine ⟨computeMrtd_eq ht order, ?_, fun s hs page hpage => ?_⟩
  · unfold Tdvf.parse at h
    simp only [ok_iff] at h
    obtain ⟨_, -, _, -, _, -, _, -, _, -, ss, hss, heq⟩ := h
    have hpages := parseSections_pages hss (Nat.zero_le _)
    rw [← heq]
    simpa using hpages
  · have hvalid := ht.sections_valid s hs
    have hinside := page_inside hvalid hpage
    have hfits := hvalid.address_fits
    have hdata := hvalid.data_inside
    rw [Nat.add_mul, Nat.one_mul]
    refine ⟨by omega, fun hext => ?_⟩
    rw [TdvfSection.measuredSize, if_pos hext] at hdata
    omega

-- == when the order matters

def OrderFree (t : Tdvf) : Prop :=
  ∀ s ∈ t.sections, s.numPages ≤ 1 ∨ s.pageAug = true ∨ s.mrExtends = false

lemma mrtdRecord_start {operation : String} {b c : UInt8} {name : Bytes}
    (h : (writeAt (zeros 128) 0 (utf8 operation)).take 16 = b :: c :: name)
    (gpa : Nat) : ∃ r, mrtdRecord operation gpa = b :: c :: r := by
  rw [mrtdRecord, writeAt, h, List.append_assoc]
  exact ⟨_, rfl⟩

lemma length_flatMap_append {α : Type} (f g : α → Bytes) (l : List α) :
    (l.flatMap fun a => f a ++ g a).length
      = (l.flatMap f ++ l.flatMap g).length := by
  induction l with
  | nil => rfl
  | cons a l ih =>
    simp only [List.flatMap_cons, List.length_append] at ih ⊢
    omega

lemma sectionRecords_length (fw : Bytes) (s : TdvfSection) :
    (sectionRecords fw .singlePass s).length
      = (sectionRecords fw .twoPass s).length :=
  length_flatMap_append _ _ _

/-- A section with two pages that are added and measured is recorded
differently: after the first page was added, one order measures it and
the other adds the next. -/
lemma sectionRecords_ne {fw : Bytes} {s : TdvfSection} (hpages : 2 ≤ s.numPages)
    (haug : s.pageAug = false) (hext : s.mrExtends = true) :
    sectionRecords fw .singlePass s ≠ sectionRecords fw .twoPass s := by
  obtain ⟨n, hn⟩ : ∃ n, s.numPages = n + 2 := ⟨s.numPages - 2, by omega⟩
  have hextend : (writeAt (zeros 128) 0 (utf8 "MR.EXTEND")).take 16
      = 0x4d :: 0x52 :: (utf8 ".EXTEND" ++ zeros 7) := by decide
  have hadd : (writeAt (zeros 128) 0 (utf8 "MEM.PAGE.ADD")).take 16
      = 0x4d :: 0x45 :: (utf8 "M.PAGE.ADD" ++ zeros 4) := by decide
  obtain ⟨r, hr⟩ := mrtdRecord_start hextend
    (s.memoryAddress + (0 * pageSize + 0 * 0x100))
  obtain ⟨r', hr'⟩ := mrtdRecord_start hadd (s.memoryAddress + 1 * pageSize)
  have hfirst : ∃ x, extendRecords fw s 0 = 0x4d :: 0x52 :: x := by
    rw [extendRecords, if_pos hext, List.range_succ_eq_map, List.flatMap_cons,
      chunkRecord, hr]
    exact ⟨_, rfl⟩
  have hsecond : pageAddRecords s 1 = 0x4d :: 0x45 :: r' := by
    rw [pageAddRecords, haug, if_neg Bool.false_ne_true, hr']
  obtain ⟨x, hx⟩ := hfirst
  intro h
  simp only [sectionRecords, hn, List.range_succ_eq_map, List.map_cons,
    List.flatMap_cons, hx, hsecond, List.append_assoc, Nat.succ_eq_add_one,
    Nat.zero_add] at h
  have hcons := List.append_cancel_left h
  simp at hcons

lemma sectionRecords_eq_iff (fw : Bytes) (s : TdvfSection) :
    sectionRecords fw .singlePass s = sectionRecords fw .twoPass s ↔
      s.numPages ≤ 1 ∨ s.pageAug = true ∨ s.mrExtends = false := by
  constructor
  · intro h
    by_contra hnot
    push Not at hnot
    obtain ⟨hpages, haug, hext⟩ := hnot
    exact sectionRecords_ne (by omega) (by simpa using haug) (by simpa using hext) h
  · intro h
    rcases h with hpages | haug | hext
    · have hcases : s.numPages = 0 ∨ s.numPages = 1 := by omega
      rcases hcases with h0 | h1
      · simp [sectionRecords, h0]
      · simp [sectionRecords, h1]
    · simp [sectionRecords, pageAddRecords, haug]
    · simp [sectionRecords, extendRecords, hext]

lemma flatMap_inj_of_length {α : Type} {f g : α → Bytes} :
    ∀ {l : List α}, (∀ a ∈ l, (f a).length = (g a).length) →
      l.flatMap f = l.flatMap g → ∀ a ∈ l, f a = g a := by
  intro l
  induction l with
  | nil => simp
  | cons a l ih =>
    intro hlen h
    rw [List.flatMap_cons, List.flatMap_cons] at h
    obtain ⟨ha, hl⟩ := List.append_inj h (hlen a List.mem_cons_self)
    intro b hb
    rcases List.mem_cons.mp hb with rfl | hb
    · exact ha
    · exact ih (fun c hc => hlen c (List.mem_cons_of_mem _ hc)) hl b hb

lemma records_eq_iff (t : Tdvf) :
    t.records .singlePass = t.records .twoPass ↔ t.OrderFree := by
  constructor
  · intro h s hs
    rw [← sectionRecords_eq_iff t.fw s]
    exact flatMap_inj_of_length (fun s _ => sectionRecords_length t.fw s) h s hs
  · intro h
    exact List.flatMap_congr fun s hs => (sectionRecords_eq_iff t.fw s).mpr (h s hs)

lemma sha384_records_eq_iff
    (hcf : Sha384.CollisionFreeOn [t.records .singlePass, t.records .twoPass])
    (o p : PageAddOrder) :
    sha384 (t.records o) = sha384 (t.records p) ↔ o = p ∨ t.OrderFree := by
  constructor
  · intro h
    cases o <;> cases p
    · exact .inl rfl
    · exact .inr (t.records_eq_iff.mp (hcf _ (by simp) _ (by simp) h).symm)
    · exact .inr (t.records_eq_iff.mp (hcf _ (by simp) _ (by simp) h))
    · exact .inl rfl
  · rintro (rfl | hfree)
    · rfl
    · have hrec := t.records_eq_iff.mpr hfree
      cases o <;> cases p <;> simp [hrec]

end Tdvf

-- == the chosen order

/-- The order a VM configuration declares: what it says about a single
pass, or else what QEMU of its version does. -/
def declaredOrder (vmConfig : VmConfig) (version : Version) : PageAddOrder :=
  match vmConfig.qemuSinglePassAddPages with
  | some true => .singlePass
  | some false => .twoPass
  | none => if version.1 = 8 then .twoPass else .singlePass

def VersionedOptions.order (opts : VersionedOptions) : PageAddOrder :=
  if opts.twoPassAddPages then .twoPass else .singlePass

lemma Machine.versionedOptions_ok {m : Machine} {opts : VersionedOptions} :
    m.versionedOptions = .ok opts ↔
      ∃ v, resolveVersion m.qemuVersion = .ok v
        ∧ Version.before v (8, 0, 0) = false
        ∧ opts = ⟨v, m.pic.getD (Version.before v (9, 0, 0)),
            m.twoPassAddPages.getD (Version.before v (9, 0, 0))⟩ := by
  unfold Machine.versionedOptions
  simp only [ok_iff, Bool.not_eq_true]
  constructor
  · rintro ⟨v, hv, _, hold, rfl⟩
    refine ⟨v, hv, hold, ?_⟩
    rw [hold, Bool.not_false, Bool.true_and]
  · rintro ⟨v, hv, hold, rfl⟩
    refine ⟨v, hv, (), hold, ?_⟩
    rw [hold, Bool.not_false, Bool.true_and]

lemma Version.before_nine {v : Version} (h : Version.before v (8, 0, 0) = false) :
    Version.before v (9, 0, 0) = decide (v.1 = 8) := by
  simp only [Version.before, decide_eq_false_iff_not, not_or, Nat.not_lt] at h
  simp only [Version.before, decide_eq_decide]
  omega

/-- The machine measures the declared order exactly when the
configuration leaves it to the QEMU version: a declared single pass is
read as two passes, and the other way round. -/
lemma order_declared_iff {vmConfig : VmConfig} {version : Version} {m : Machine}
    {opts : VersionedOptions} (htwo : m.twoPassAddPages = vmConfig.qemuSinglePassAddPages)
    (hqemu : m.qemuVersion = vmConfig.qemuVersion)
    (hversion : resolveVersion vmConfig.qemuVersion = .ok version)
    (hopts : m.versionedOptions = .ok opts) :
    opts.order = declaredOrder vmConfig version
      ↔ vmConfig.qemuSinglePassAddPages = none := by
  obtain ⟨v, hv, hold, rfl⟩ := Machine.versionedOptions_ok.mp hopts
  rw [hqemu, hversion] at hv
  cases hv
  rw [VersionedOptions.order, declaredOrder, htwo, Version.before_nine hold]
  cases vmConfig.qemuSinglePassAddPages with
  | none => simp
  | some single => cases single <;> simp

lemma Tdvf.mrtd_ok (ht : t.WellFormed) {m : Machine} {d : Bytes} :
    t.mrtd m = .ok d ↔ ∃ opts, m.versionedOptions = .ok opts
      ∧ sha384 (t.records opts.order) = d := by
  unfold Tdvf.mrtd
  simp only [ok_iff]
  refine exists_congr fun opts => and_congr_right fun _ => ?_
  show t.computeMrtd opts.order = .ok d ↔ _
  rw [Tdvf.computeMrtd_eq ht, Except.ok.injEq]

lemma selectMrtd_ok {f : Images.Files}
    {measurement : TdxOsImageMeasurement} (hm : Images.Measured f t measurement)
    {vmConfig : VmConfig} {d : Bytes} (h : selectMrtd measurement vmConfig = .ok d) :
    ∃ opts, (machineFromVmConfig vmConfig
        measurement.tdvf.ovmfVariant).versionedOptions = .ok opts
      ∧ sha384 (t.records opts.order) = d := by
  have ht := (Tdvf.parse_wellFormed hm.parsed).2
  have hsingle := hm.singlePass
  have htwo := hm.twoPass
  rw [Tdvf.mrtdSinglePass, Tdvf.computeMrtd_eq ht, Except.ok.injEq] at hsingle
  rw [Tdvf.mrtdTwoPass, Tdvf.computeMrtd_eq ht, Except.ok.injEq] at htwo
  unfold selectMrtd at h
  simp only [ok_iff, validateBytesField_ok] at h
  obtain ⟨opts, hopts, -, rfl⟩ := h
  refine ⟨opts, hopts, ?_⟩
  cases hpass : opts.twoPassAddPages with
  | true => simp [VersionedOptions.order, hpass, htwo]
  | false => simp [VersionedOptions.order, hpass, hsingle]

-- == a small firmware

def sampleBootSection : TdvfSection := ⟨0, 0x2000, 0xffffe000, 0x2000, 0, 1⟩
def sampleTdHobSection : TdvfSection := ⟨0, 0, 0x809000, 0x1000, 2, 0⟩

def sectionBytes (s : TdvfSection) : Bytes :=
  leBytes 4 s.dataOffset ++ leBytes 4 s.rawDataSize ++ leBytes 8 s.memoryAddress
    ++ leBytes 8 s.memoryDataSize ++ leBytes 4 s.secType ++ leBytes 4 s.attributes

def sampleOffsetGuid : Bytes :=
  [0x35, 0x65, 0x7a, 0xe4, 0x4a, 0x98, 0x98, 0x47, 0x86, 0x5e, 0x46, 0x85,
    0xa7, 0xbf, 0x8e, 0xc2]

def sampleFooterGuid : Bytes :=
  [0xde, 0x82, 0xb5, 0x96, 0xb2, 0x1f, 0xf7, 0x45, 0xba, 0xea, 0xa3, 0x66,
    0xc5, 0x5a, 0x08, 0x2d]

def sampleTables : Bytes :=
  zeros 18 ++ leBytes 4 170 ++ leBytes 2 22 ++ sampleOffsetGuid

def sampleMetadata : Bytes :=
  utf8 "TDVF" ++ leBytes 4 80 ++ leBytes 4 1 ++ leBytes 4 2
    ++ sectionBytes sampleBootSection ++ sectionBytes sampleTdHobSection
    ++ sampleTables ++ leBytes 2 40
    ++ sampleFooterGuid ++ zeros 32

def sampleFirmware : Bytes := zeros 0x2000 ++ sampleMetadata

def sampleTdvf : Tdvf := ⟨sampleFirmware, [sampleBootSection, sampleTdHobSection]⟩

lemma sampleFirmware_length : sampleFirmware.length = 8362 := by
  have hmeta : sampleMetadata.length = 170 := rfl
  rw [sampleFirmware, List.length_append, zeros_length, hmeta]

lemma slice_sample {i j : Nat} (hi : 0x2000 ≤ i) (hij : i ≤ j) :
    slice sampleFirmware i j = slice sampleMetadata (i - 0x2000) (j - 0x2000) := by
  have hzeros : (zeros 0x2000).length ≤ i := by rwa [zeros_length]
  have h : slice (zeros 0x2000 ++ sampleMetadata) i j = _ :=
    slice_append_right hzeros hij
  rwa [zeros_length] at h

lemma encodeGuid_footer : encodeGuid tableFooterGuid = .ok sampleFooterGuid := by
  decide

lemma encodeGuid_offset : encodeGuid tdxMetadataOffsetGuid = .ok sampleOffsetGuid := by
  decide

lemma metadataTables_sample : metadataTables sampleFirmware = .ok sampleTables := by
  unfold metadataTables
  simp (disch := decide) only [sampleFirmware_length, sliceAt, slice_sample,
    encodeGuid_footer, bind_eq_ok, ensure_eq_ok, ofOption_eq_ok]
  refine ⟨(), by decide, sampleFooterGuid, rfl, (), by decide, sampleFooterGuid,
    by decide +kernel, (), rfl, (), by decide, leBytes 2 40, by decide +kernel, (),
    by decide, ?_⟩
  rw [slice_sample (by decide) (by decide)]
  decide +kernel

lemma metadataOffset_sample : metadataOffset sampleFirmware = .ok 0x2000 := by
  unfold metadataOffset
  simp only [metadataTables_sample, encodeGuid_offset, sampleFirmware_length, ok_iff]
  exact ⟨sampleTables, rfl, sampleOffsetGuid, rfl, some (zeros 18 ++ leBytes 4 170),
    by decide, zeros 18 ++ leBytes 4 170, rfl, (), by decide, (),
    by decide, by decide⟩

lemma parseSections_sample : parseSections sampleFirmware 0x2000 0 [0, 1]
    = .ok [sampleBootSection, sampleTdHobSection] := by
  simp (disch := decide) only [parseSections, sampleFirmware_length, slice_sample,
    bind_eq_ok, ensure_eq_ok, ofOption_eq_ok, pure_eq_ok]
  exact ⟨sectionBytes sampleBootSection, by decide +kernel, (), by decide, 2,
    by decide, (), by decide, [sampleTdHobSection],
    ⟨sectionBytes sampleTdHobSection, by decide +kernel, (), by decide, 3,
      by decide, (), by decide, [], rfl, by decide⟩,
    by decide⟩

lemma parse_sample : Tdvf.parse sampleFirmware = .ok sampleTdvf := by
  unfold Tdvf.parse
  simp only [metadataOffset_sample, ok_iff]
  refine ⟨0x2000, rfl, sampleMetadata.take 16, ?_, (), by decide,
    (), by decide, (), by decide,
    [sampleBootSection, sampleTdHobSection], ?_, rfl⟩
  · rw [slice_sample (by decide) (by decide)]
    decide +kernel
  · have hcount : List.range (leNat (((sampleMetadata.take 16).drop 12).take 4))
        = [0, 1] := by decide
    rw [hcount]
    exact parseSections_sample

/-- A firmware with a boot volume and room for a hand-off block. -/
theorem sample_firmware_is_measured :
    Tdvf.parse sampleFirmware = .ok sampleTdvf
      ∧ sampleTdvf.computeMrtd .singlePass = .ok (sha384 (sampleTdvf.records .singlePass)) :=
  ⟨parse_sample, (Tdvf.accepted_firmware_is_measured parse_sample .singlePass).1⟩

lemma chunkRecord_sample {offset : Nat} (h : offset + 0x100 ≤ 0x2000) :
    Tdvf.chunkRecord sampleFirmware sampleBootSection offset
      = mrtdRecord "MR.EXTEND" (0xffffe000 + offset) ++ zeros 0x100 := by
  show mrtdRecord "MR.EXTEND" (0xffffe000 + offset)
    ++ (sampleFirmware.drop (0 + offset)).take 0x100 = _
  rw [Nat.zero_add, sampleFirmware, take_drop_zeros h]

def sampleExtend (page : Nat) : Bytes :=
  (List.range 16).flatMap fun i =>
    mrtdRecord "MR.EXTEND" (0xffffe000 + (page * pageSize + i * 0x100)) ++ zeros 0x100

def sampleAdd (page : Nat) : Bytes :=
  mrtdRecord "MEM.PAGE.ADD" (0xffffe000 + page * pageSize)

lemma extendRecords_sample {page : Nat} (h : page < 2) :
    Tdvf.extendRecords sampleFirmware sampleBootSection page = sampleExtend page := by
  refine List.flatMap_congr fun i hi => chunkRecord_sample ?_
  have hi' : i < 16 := List.mem_range.mp hi
  simp only [pageSize]
  omega

lemma records_sample :
    sampleTdvf.records .singlePass = sampleAdd 0 ++ (sampleExtend 0 ++ (sampleAdd 1
        ++ (sampleExtend 1 ++ mrtdRecord "MEM.PAGE.ADD" 0x809000)))
      ∧ sampleTdvf.records .twoPass = sampleAdd 0 ++ (sampleAdd 1 ++ (sampleExtend 0
        ++ (sampleExtend 1 ++ mrtdRecord "MEM.PAGE.ADD" 0x809000))) := by
  have hboot : List.range sampleBootSection.numPages = [0, 1] := by decide
  have hhob : List.range sampleTdHobSection.numPages = [0] := by decide
  have h0 : Tdvf.extendRecords sampleFirmware sampleBootSection 0 = sampleExtend 0 :=
    extendRecords_sample (by decide)
  have h1 : Tdvf.extendRecords sampleFirmware sampleBootSection 1 = sampleExtend 1 :=
    extendRecords_sample (by decide)
  have hadd : ∀ p, Tdvf.pageAddRecords sampleBootSection p = sampleAdd p := fun _ => rfl
  have hhobAdd : Tdvf.pageAddRecords sampleTdHobSection 0
      = mrtdRecord "MEM.PAGE.ADD" 0x809000 := rfl
  have hhobExt : Tdvf.extendRecords sampleFirmware sampleTdHobSection 0 = [] := rfl
  constructor
  · simp only [Tdvf.records, sampleTdvf, List.flatMap_cons, List.flatMap_nil,
      Tdvf.sectionRecords, hboot, hhob, hadd, h0, h1, hhobAdd, hhobExt,
      List.append_nil, List.append_assoc]
  · simp only [Tdvf.records, sampleTdvf, List.flatMap_cons, List.flatMap_nil,
      Tdvf.sectionRecords, hboot, hhob, hadd, h0, h1, hhobAdd, hhobExt,
      List.append_nil, List.append_assoc]

lemma sample_digests_differ :
    sha384 (sampleTdvf.records .singlePass) ≠ sha384 (sampleTdvf.records .twoPass) := by
  rw [records_sample.1, records_sample.2]
  decide +kernel

end Dstack.Mr
