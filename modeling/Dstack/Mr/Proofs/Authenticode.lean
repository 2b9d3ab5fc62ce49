/-
The bytes of a kernel that its Authenticode digest covers.

What lies behind the last section is hashed only in front of a
certificate table, and from the sum of the sizes on, which is where the
last section ends only if no bytes are skipped between sections. So the
digest is the Authenticode digest exactly under `HashesTrailing`.

The Authenticode bytes themselves are the image without the positions that
are left out (`covered`), padded. The padding says nothing of where it
starts: two images, one of which ends in the zeros that pad the other,
hash the same bytes.
-/
import Dstack.Mr.Kernel

namespace Dstack.Mr

open Lib

variable {data data' : Bytes} {a b e i : Nat}

-- == what is hashed

/-- What is left of bytes from `start` on without some positions. -/
def without (out : Nat → Prop) [DecidablePred out] (start : Nat) (bytes : Bytes) : Bytes :=
  ((bytes.zipIdx start).filter fun p => ¬out p.2).map Prod.fst

/-- What is read from an image: its layout, the sections that have raw data
in file order, and the certificate directory entry. -/
structure PeFields where
  pe : PeLayout
  sections : List (Nat × Nat)
  certTableAddr : Nat
  certTableSize : Nat
  deriving DecidableEq

def peFields (data : Bytes) : Result PeFields := do
  let pe ← peLayout data
  let numSections ← readLe 2 data (pe.coffHeaderOffset + 2) "number of sections"
  let all ← (List.range numSections).mapM
    (peSection data (pe.optionalHeaderOffset + pe.optionalHeaderSize))
  let certTableAddr ← readLe 4 data pe.certDirOffset "certificate table address"
  let certTableSize ← readLe 4 data (pe.certDirOffset + 4) "certificate table size"
  pure ⟨pe, Intervals.sortByStart Prod.fst (all.filter (·.2 > 0)), certTableAddr, certTableSize⟩

namespace PeFields

variable (f : PeFields) (data : Bytes)

/-- The headers without the checksum and the certificate directory entry. -/
def headers : Bytes :=
  bytesBetween data 0 f.pe.checksumOffset
    ++ bytesBetween data (f.pe.checksumOffset + 4) f.pe.certDirOffset
    ++ bytesBetween data (f.pe.certDirOffset + 8) f.pe.sizeOfHeaders

/-- Zeros up to a multiple of eight bytes. -/
def padding : Bytes := if data.length % 8 ≠ 0 then zeros (8 - data.length % 8) else []

/-- What the code takes for the end of the sections. -/
def sumOfBytesHashed : Nat := f.pe.sizeOfHeaders + (f.sections.map Prod.snd).sum

/-- The bytes that the code hashes. -/
def hashed : Bytes :=
  f.headers data ++ f.sections.flatMap (peSectionBytes data)
    ++ peTrailing data f.sumOfBytesHashed f.certTableAddr f.certTableSize ++ padding data

-- == what Authenticode hashes

/-- Where the last section ends, or `start` if there is none. -/
def endFrom (start : Nat) (sections : List (Nat × Nat)) : Nat :=
  sections.foldl (fun _ s => s.1 + s.2) start

/-- The end of the headers and of all sections. -/
def sectionsEnd : Nat := endFrom f.pe.sizeOfHeaders f.sections

def hasTable : Prop := 0 < f.certTableAddr ∧ 0 < f.certTableSize

instance : Decidable f.hasTable := inferInstanceAs (Decidable (_ ∧ _))

/-- Where the bytes to hash end: at a certificate table that ends the file,
or at the end of the file. -/
def hashedEnd : Nat :=
  if f.hasTable ∧ f.certTableAddr + f.certTableSize = data.length then f.certTableAddr
  else data.length

/-- The headers, the sections in file order, what follows them up to the
certificate table, and the padding. -/
def authenticodeBytes : Bytes :=
  f.headers data ++ f.sections.flatMap (fun s => bytesBetween data s.1 (s.1 + s.2))
    ++ bytesBetween data f.sectionsEnd (f.hashedEnd data) ++ padding data

/-- The fields are those of the image, and its sections lie in the file,
behind the headers and apart from each other. -/
structure WellFormed : Prop where
  read : peFields data = .ok f
  inFile : ∀ s ∈ f.sections, s.1 + s.2 ≤ data.length
  afterHeaders : ∀ s ∈ f.sections, f.pe.sizeOfHeaders ≤ s.1
  apart : f.sections.Pairwise fun s t => s.1 + s.2 ≤ t.1

/-- Without a certificate table nothing follows the sections. With one at
the end of the file, the code's end of the sections is the real one or
lies behind the start of the table. With one elsewhere, the bytes that the
code hashes in its place are those behind the sections. -/
def HashesTrailing : Prop :=
  if ¬ f.hasTable then f.sectionsEnd = data.length
  else if f.certTableAddr + f.certTableSize = data.length then
    f.sumOfBytesHashed = f.sectionsEnd ∨ f.certTableAddr ≤ f.sumOfBytesHashed
  else
    (f.sectionsEnd = data.length ∧ data.length ≤ f.sumOfBytesHashed + f.certTableSize)
      ∨ (f.sectionsEnd = f.sumOfBytesHashed + f.certTableSize
        ∧ bytesBetween data f.sectionsEnd data.length
          = bytesBetween data f.sumOfBytesHashed (data.length - f.certTableSize))

/-- Behind the headers, in front of the end of the last section, and in
no section. -/
def Skipped (i : Nat) : Prop :=
  f.pe.sizeOfHeaders ≤ i ∧ i < f.sectionsEnd ∧ ∀ s ∈ f.sections, ¬(s.1 ≤ i ∧ i < s.1 + s.2)

/-- The positions that Authenticode leaves out: the checksum, the
certificate directory entry, the bytes skipped between sections, and a
certificate table at the end. -/
def LeftOut (i : Nat) : Prop :=
  (f.pe.checksumOffset ≤ i ∧ i < f.pe.checksumOffset + 4)
    ∨ (f.pe.certDirOffset ≤ i ∧ i < f.pe.certDirOffset + 8)
    ∨ f.Skipped i ∨ max f.sectionsEnd (f.hashedEnd data) ≤ i

instance (i : Nat) : Decidable (f.Skipped i) := inferInstanceAs (Decidable (_ ∧ _ ∧ _))

instance (i : Nat) : Decidable (f.LeftOut data i) :=
  inferInstanceAs (Decidable (_ ∨ _ ∨ _ ∨ _))

/-- The image without the positions left out. -/
def covered : Bytes := without (f.LeftOut data) 0 data

end PeFields

open PeFields

lemma authenticodeSha384Hash_eq (data : Bytes) :
    authenticodeSha384Hash data = (fun f => sha384 (f.hashed data)) <$> peFields data := by
  unfold authenticodeSha384Hash peFields
  simp only [map_bind, map_pure]
  rfl

-- == ranges of bytes

lemma bytesBetween_length (h : b ≤ data.length) : (bytesBetween data a b).length = b - a := by
  rw [bytesBetween, List.length_take, List.length_drop]
  omega

lemma bytesBetween_append (hab : a ≤ b) (hbe : b ≤ e) :
    bytesBetween data a b ++ bytesBetween data b e = bytesBetween data a e := by
  have hsplit : e - a = (b - a) + (e - b) := by omega
  have hdrop : b = a + (b - a) := by omega
  simp only [bytesBetween]
  rw [hsplit, List.take_add, List.drop_drop, ← hdrop]

lemma bytesBetween_eq_nil (h : b ≤ a) : bytesBetween data a b = [] := by
  rw [bytesBetween, Nat.sub_eq_zero_of_le h, List.take_zero]

-- == positions left out

section Without

variable {out : Nat → Prop} [DecidablePred out]

lemma without_append (hab : a ≤ b) (hbe : b ≤ e) (he : b ≤ data.length) :
    without out a (bytesBetween data a e)
      = without out a (bytesBetween data a b) ++ without out b (bytesBetween data b e) := by
  have hstart : a + (bytesBetween data a b).length = b := by
    rw [bytesBetween_length he]
    omega
  rw [← bytesBetween_append hab hbe]
  simp only [without, List.zipIdx_append, hstart, List.filter_append, List.map_append]

lemma mem_zipIdx_bytesBetween {p : UInt8 × Nat}
    (hp : p ∈ (bytesBetween data a b).zipIdx a) : a ≤ p.2 ∧ p.2 < b := by
  have hge := List.le_snd_of_mem_zipIdx hp
  have hlt := List.snd_lt_add_of_mem_zipIdx hp
  rw [bytesBetween, List.length_take] at hlt
  exact ⟨hge, by omega⟩

lemma without_all (h : ∀ i, a ≤ i → i < b → out i) :
    without out a (bytesBetween data a b) = [] := by
  rw [without, List.map_eq_nil_iff, List.filter_eq_nil_iff]
  intro p hp
  obtain ⟨hge, hlt⟩ := mem_zipIdx_bytesBetween hp
  simpa using h p.2 hge hlt

lemma without_none (h : ∀ i, a ≤ i → i < b → ¬out i) :
    without out a (bytesBetween data a b) = bytesBetween data a b := by
  rw [without, List.filter_eq_self.mpr, List.zipIdx_map_fst]
  intro p hp
  obtain ⟨hge, hlt⟩ := mem_zipIdx_bytesBetween hp
  simpa using h p.2 hge hlt

end Without

-- == the sections

lemma endFrom_cons {s : Nat × Nat} {l : List (Nat × Nat)} :
    endFrom a (s :: l) = endFrom (s.1 + s.2) l := rfl

lemma endFrom_ge {l : List (Nat × Nat)} (hstart : ∀ s ∈ l, a ≤ s.1)
    (hl : l.Pairwise fun s t => s.1 + s.2 ≤ t.1) :
    a + (l.map Prod.snd).sum ≤ endFrom a l := by
  induction l generalizing a with
  | nil => exact Nat.le_refl a
  | cons s l ih =>
    obtain ⟨hs, -⟩ := List.forall_mem_cons.mp hstart
    obtain ⟨hnext, hl⟩ := List.pairwise_cons.mp hl
    have := ih hnext hl
    rw [endFrom_cons, List.map_cons, List.sum_cons]
    omega

lemma endFrom_le {l : List (Nat × Nat)} (ha : a ≤ e) (h : ∀ s ∈ l, s.1 + s.2 ≤ e) :
    endFrom a l ≤ e := by
  induction l generalizing a with
  | nil => exact ha
  | cons s l ih =>
    obtain ⟨hs, h⟩ := List.forall_mem_cons.mp h
    exact ih hs h

lemma endFrom_eq_iff {l : List (Nat × Nat)} (hstart : ∀ s ∈ l, a ≤ s.1)
    (hl : l.Pairwise fun s t => s.1 + s.2 ≤ t.1) :
    a + (l.map Prod.snd).sum = endFrom a l
      ↔ ∀ i, a ≤ i → i < endFrom a l → ∃ s ∈ l, s.1 ≤ i ∧ i < s.1 + s.2 := by
  induction l generalizing a with
  | nil => exact iff_of_true rfl fun i hge hlt => absurd hlt (Nat.not_lt.mpr hge)
  | cons s l ih =>
    obtain ⟨hs, -⟩ := List.forall_mem_cons.mp hstart
    obtain ⟨hnext, hl⟩ := List.pairwise_cons.mp hl
    have hge := endFrom_ge hnext hl
    have ih := ih hnext hl
    rw [endFrom_cons, List.map_cons, List.sum_cons]
    constructor
    · intro hsum i hi hlt
      by_cases hin : i < s.1 + s.2
      · exact ⟨s, List.mem_cons_self, by omega, hin⟩
      · obtain ⟨t, ht, hit⟩ := ih.mp (by omega) i (by omega) hlt
        exact ⟨t, List.mem_cons_of_mem _ ht, hit⟩
    · intro hcover
      -- a section in front of which something is skipped does not cover `a`
      have hfirst : s.1 = a := by
        by_contra hne
        obtain ⟨t, ht, hta, -⟩ := hcover a (Nat.le_refl a) (by omega)
        rcases List.mem_cons.mp ht with rfl | ht
        · omega
        · have := hnext t ht
          omega
      have hrest := ih.mpr fun i hi hlt => by
        obtain ⟨t, ht, hit⟩ := hcover i (by omega) hlt
        rcases List.mem_cons.mp ht with rfl | ht
        · omega
        · exact ⟨t, ht, hit⟩
      omega

/-- Where only the bytes between sections are left out, the sections are
left. -/
lemma without_sections {out : Nat → Prop} [DecidablePred out] {l : List (Nat × Nat)}
    (hstart : ∀ s ∈ l, a ≤ s.1) (hl : l.Pairwise fun s t => s.1 + s.2 ≤ t.1)
    (hfile : ∀ s ∈ l, s.1 + s.2 ≤ data.length)
    (hout : ∀ i, a ≤ i → i < endFrom a l → (out i ↔ ∀ s ∈ l, ¬(s.1 ≤ i ∧ i < s.1 + s.2))) :
    without out a (bytesBetween data a (endFrom a l))
      = l.flatMap fun s => bytesBetween data s.1 (s.1 + s.2) := by
  induction l generalizing a with
  | nil => exact without_all fun i hge hlt => absurd hlt (Nat.not_lt.mpr hge)
  | cons s l ih =>
    obtain ⟨hs, -⟩ := List.forall_mem_cons.mp hstart
    obtain ⟨hnext, hl⟩ := List.pairwise_cons.mp hl
    obtain ⟨hsfile, hfile⟩ := List.forall_mem_cons.mp hfile
    have hend : s.1 + s.2 ≤ endFrom (s.1 + s.2) l :=
      Nat.le_trans (Nat.le_add_right ..) (endFrom_ge hnext hl)
    rw [endFrom_cons] at hout ⊢
    have hgap : without out a (bytesBetween data a s.1) = [] := by
      refine without_all fun i hge hlt => (hout i hge (by omega)).mpr ?_
      refine List.forall_mem_cons.mpr ⟨by omega, fun t ht => ?_⟩
      have := hnext t ht
      omega
    have hsection : without out s.1 (bytesBetween data s.1 (s.1 + s.2))
        = bytesBetween data s.1 (s.1 + s.2) := by
      refine without_none fun i hge hlt hi => ?_
      exact (hout i (by omega) (by omega)).mp hi s List.mem_cons_self ⟨hge, hlt⟩
    have hrest := ih hnext hl hfile fun i hge hlt => by
      rw [hout i (by omega) hlt, List.forall_mem_cons]
      exact and_iff_right (by omega)
    rw [without_append hs (by omega : s.1 ≤ _) (by omega), hgap, List.nil_append,
      without_append (Nat.le_add_right s.1 s.2) hend hsfile, hsection, hrest, List.flatMap_cons]

-- == the two byte strings

namespace PeFields.WellFormed

variable {f g : PeFields}

lemma layout (h : f.WellFormed data) :
    f.pe.checksumOffset + 4 ≤ f.pe.certDirOffset ∧
    f.pe.certDirOffset + 8 ≤ f.pe.sizeOfHeaders ∧ f.pe.sizeOfHeaders ≤ data.length := by
  obtain ⟨pe, hpe, hrest⟩ := bind_eq_ok.mp h.read
  simp only [ok_iff] at hrest
  obtain ⟨_, -, _, -, _, -, _, -, rfl⟩ := hrest
  unfold peLayout readLe at hpe
  simp only [ok_iff] at hpe
  obtain ⟨_, ⟨_, -, _, -, rfl⟩, _, -, _, -, _, -, _, ⟨_, -, _, -, rfl⟩, _, -, _, -, _, hsize,
    rfl⟩ := hpe
  dsimp only
  split at hsize <;> split <;> omega

lemma sum_le (h : f.WellFormed data) : f.sumOfBytesHashed ≤ f.sectionsEnd :=
  endFrom_ge h.afterHeaders h.apart

lemma end_le (h : f.WellFormed data) : f.sectionsEnd ≤ data.length :=
  endFrom_le h.layout.2.2 h.inFile

lemma peTrailing_eq (h : f.WellFormed data) (htable : f.hasTable) :
    peTrailing data f.sumOfBytesHashed f.certTableAddr f.certTableSize
      = bytesBetween data f.sumOfBytesHashed (data.length - f.certTableSize) := by
  have hle := Nat.le_trans h.sum_le h.end_le
  unfold peTrailing
  by_cases hmore : f.sumOfBytesHashed + f.certTableSize < data.length
  · rw [if_pos ⟨htable.1, htable.2, by omega⟩]
    dsimp only
    rw [if_pos (by omega), if_pos (by omega)]
    congr 1
    omega
  · rw [bytesBetween_eq_nil (by omega)]
    split
    · rw [if_neg (by omega)]
    · rfl

lemma peTrailing_eq_iff (h : f.WellFormed data) :
    peTrailing data f.sumOfBytesHashed f.certTableAddr f.certTableSize
      = bytesBetween data f.sectionsEnd (f.hashedEnd data) ↔ f.HashesTrailing data := by
  have hsum := h.sum_le
  have hend := h.end_le
  have hlen := @bytesBetween_length data f.sectionsEnd data.length (Nat.le_refl _)
  unfold HashesTrailing hashedEnd
  by_cases htable : f.hasTable
  · rw [h.peTrailing_eq htable, if_neg (not_not.mpr htable)]
    have hlen' := @bytesBetween_length data f.sumOfBytesHashed _ (Nat.sub_le _ f.certTableSize)
    by_cases hat : f.certTableAddr + f.certTableSize = data.length
    · rw [if_pos hat, if_pos ⟨htable, hat⟩]
      obtain hstop : data.length - f.certTableSize = f.certTableAddr := by omega
      rw [hstop]
      constructor
      · intro heq
        have := congrArg List.length heq
        rw [bytesBetween_length (by omega), bytesBetween_length (by omega)] at this
        omega
      · rintro (heq | hle)
        · rw [heq]
        · rw [bytesBetween_eq_nil hle, bytesBetween_eq_nil (Nat.le_trans hle hsum)]
    · rw [if_neg hat, if_neg fun hc => hat hc.2]
      constructor
      · intro heq
        have := congrArg List.length heq
        by_cases hfull : f.sectionsEnd = data.length
        · exact .inl ⟨hfull, by omega⟩
        · exact .inr ⟨by omega, heq.symm⟩
      · rintro (⟨hfull, hle⟩ | ⟨-, heq⟩)
        · rw [bytesBetween_eq_nil (by omega), bytesBetween_eq_nil (by omega)]
        · exact heq.symm
  · have hnone : peTrailing data f.sumOfBytesHashed f.certTableAddr f.certTableSize = [] :=
      if_neg fun hc => htable ⟨hc.1, hc.2.1⟩
    rw [hnone, if_pos htable, if_neg fun hc => htable hc.1, eq_comm, List.eq_nil_iff_length_eq_zero,
      hlen]
    omega

lemma hashed_eq_iff (h : f.WellFormed data) :
    f.hashed data = f.authenticodeBytes data ↔ f.HashesTrailing data := by
  have hsections : f.sections.flatMap (peSectionBytes data)
      = f.sections.flatMap (fun s => bytesBetween data s.1 (s.1 + s.2)) :=
    List.flatMap_congr fun s hs => if_pos (h.inFile s hs)
  rw [← h.peTrailing_eq_iff, hashed, authenticodeBytes, hsections]
  simp

/-- The Authenticode bytes are the image without what is left out. -/
lemma authenticodeBytes_eq (h : f.WellFormed data) :
    f.authenticodeBytes data = f.covered data ++ padding data := by
  obtain ⟨hchecksum, hdir, hheaders⟩ := h.layout
  have hsections : f.pe.sizeOfHeaders ≤ f.sectionsEnd :=
    Nat.le_trans (Nat.le_add_right ..) h.sum_le
  have hend := h.end_le
  have hstop : max f.sectionsEnd (f.hashedEnd data) ≤ data.length := by
    unfold hashedEnd
    split <;> omega
  have htail : bytesBetween data f.sectionsEnd (f.hashedEnd data)
      = bytesBetween data f.sectionsEnd (max f.sectionsEnd (f.hashedEnd data)) := by
    simp only [bytesBetween]
    congr 1
    omega
  -- of each range of the image, all is left out or nothing, sections apart
  have hcovered : f.covered data
      = without (f.LeftOut data) 0 (bytesBetween data 0 data.length) := by
    simp [covered, bytesBetween]
  have hbody : without (f.LeftOut data) f.pe.sizeOfHeaders
      (bytesBetween data f.pe.sizeOfHeaders f.sectionsEnd)
        = f.sections.flatMap fun s => bytesBetween data s.1 (s.1 + s.2) := by
    refine without_sections h.afterHeaders h.apart h.inFile fun i hge hlt => ?_
    have hlt : i < f.sectionsEnd := hlt
    constructor
    · rintro (hout | hout | hout | hout)
      · omega
      · omega
      · exact hout.2.2
      · omega
    · intro hskipped
      exact .inr (.inr (.inl ⟨hge, hlt, hskipped⟩))
  have hin : ∀ i, ¬(f.pe.checksumOffset ≤ i ∧ i < f.pe.checksumOffset + 4) →
      ¬(f.pe.certDirOffset ≤ i ∧ i < f.pe.certDirOffset + 8) →
      (i < f.pe.sizeOfHeaders ∨ f.sectionsEnd ≤ i) →
      i < max f.sectionsEnd (f.hashedEnd data) → ¬f.LeftOut data i := by
    rintro i hnot hnot' hplace hlt (hout | hout | ⟨hge, hlt', -⟩ | hout)
    · exact hnot hout
    · exact hnot' hout
    · omega
    · omega
  have hout₁ : without (f.LeftOut data) f.pe.checksumOffset
      (bytesBetween data f.pe.checksumOffset (f.pe.checksumOffset + 4)) = [] :=
    without_all fun i hge hlt => .inl ⟨hge, hlt⟩
  have hout₂ : without (f.LeftOut data) f.pe.certDirOffset
      (bytesBetween data f.pe.certDirOffset (f.pe.certDirOffset + 8)) = [] :=
    without_all fun i hge hlt => .inr (.inl ⟨hge, hlt⟩)
  have hout₃ : without (f.LeftOut data) (max f.sectionsEnd (f.hashedEnd data))
      (bytesBetween data (max f.sectionsEnd (f.hashedEnd data)) data.length) = [] :=
    without_all fun i hge _ => .inr (.inr (.inr hge))
  rw [hcovered, without_append (Nat.zero_le f.pe.checksumOffset) (by omega) (by omega),
    without_none fun i _ hlt => hin i (by omega) (by omega) (by omega) (by omega),
    without_append (by omega : f.pe.checksumOffset ≤ f.pe.checksumOffset + 4) (by omega) (by omega),
    hout₁, without_append hchecksum (by omega) (by omega),
    without_none fun i hge hlt => hin i (by omega) (by omega) (by omega) (by omega),
    without_append (by omega : f.pe.certDirOffset ≤ f.pe.certDirOffset + 8) (by omega) (by omega),
    hout₂, without_append hdir (by omega) (by omega),
    without_none fun i hge hlt => hin i (by omega) (by omega) (by omega) (by omega),
    without_append hsections (by omega) (by omega), hbody,
    without_append (Nat.le_max_left f.sectionsEnd (f.hashedEnd data)) hstop (by omega),
    without_none fun i hge hlt => hin i (by omega) (by omega) (by omega) (by omega), hout₃,
    authenticodeBytes, headers, htail]
  simp

/-- Nothing is skipped where the sizes add up to the end of the sections. -/
lemma sum_eq_iff (h : f.WellFormed data) :
    f.sumOfBytesHashed = f.sectionsEnd ↔ ∀ i, ¬f.Skipped i := by
  refine (endFrom_eq_iff h.afterHeaders h.apart).trans (forall_congr' fun i => ?_)
  simp only [Skipped, not_and, not_forall, not_not, exists_prop]
  rfl

end PeFields.WellFormed

-- == the digest

/-- The digest covers what Authenticode covers exactly if the bytes behind
the sections are hashed. Then two images hash the same bytes exactly if
they are the same without what Authenticode leaves out, up to the padding;
bytes between sections are among what is left out, if there are any. -/
theorem kernel_digest_is_authenticode_iff {f : PeFields} (h : f.WellFormed data) :
    authenticodeSha384Hash data = .ok (sha384 (f.hashed data)) ∧
    (f.hashed data = f.authenticodeBytes data ↔ f.HashesTrailing data) ∧
    f.authenticodeBytes data = f.covered data ++ padding data ∧
    (f.sumOfBytesHashed = f.sectionsEnd ↔ ∀ i, ¬f.Skipped i) ∧
    (f.HashesTrailing data → ∀ (data' : Bytes) (g : PeFields), g.WellFormed data' →
      g.HashesTrailing data' →
      (f.hashed data = g.hashed data'
        ↔ f.covered data ++ padding data = g.covered data' ++ padding data')) := by
  refine ⟨?_, h.hashed_eq_iff, h.authenticodeBytes_eq, h.sum_eq_iff, ?_⟩
  · rw [authenticodeSha384Hash_eq, h.read]
    rfl
  · intro hall data' g h' hall'
    rw [h.hashed_eq_iff.mpr hall, h'.hashed_eq_iff.mpr hall', h.authenticodeBytes_eq,
      h'.authenticodeBytes_eq]

/-- A PE32 image of `n` bytes without sections and certificates. -/
def samplePe (n : Nat) (last : UInt8) : Bytes :=
  [(0x3c, [0x40]), (0x40, [0x50, 0x45]), (0x58, [0x0b, 0x01]), (0x94, [224]), (n - 1, [last])].foldl
    (fun data (write : Nat × Bytes) => writeAt data write.1 write.2) (zeros n)

def sampleFields : PeFields := ⟨⟨0x44, 0x58, 0, 0x98, 0xd8, 224⟩, [], 0, 0⟩

/-- Such an image with bytes behind its headers and a certificate table of
eight bytes behind them. -/
def signedPe (trailing : Bytes) : Bytes :=
  writeAt (samplePe 224 0) 0xd8 (leBytes 4 (224 + trailing.length) ++ leBytes 4 8)
    ++ trailing ++ zeros 8

def signedFields (n : Nat) : PeFields :=
  { sampleFields with certTableAddr := 224 + n, certTableSize := 8 }

/-- An image without trailing data is hashed as Authenticode has it; so
are two signed ones, the second of which goes on with the zeros that pad
the first: they differ and hash the same bytes. -/
theorem samplePe_digest :
    sampleFields.hashed (samplePe 224 0) = sampleFields.authenticodeBytes (samplePe 224 0) ∧
    (signedFields 4).hashed (signedPe [1, 2, 3, 4])
      = (signedFields 8).hashed (signedPe [1, 2, 3, 4, 0, 0, 0, 0]) ∧
    (signedFields 4).covered (signedPe [1, 2, 3, 4])
      ≠ (signedFields 8).covered (signedPe [1, 2, 3, 4, 0, 0, 0, 0]) := by
  have hread : sampleFields.WellFormed (samplePe 224 0) :=
    ⟨by decide +kernel, nofun, nofun, .nil⟩
  have hread₄ : (signedFields 4).WellFormed (signedPe [1, 2, 3, 4]) :=
    ⟨by decide +kernel, nofun, nofun, .nil⟩
  have hread₈ : (signedFields 8).WellFormed (signedPe [1, 2, 3, 4, 0, 0, 0, 0]) :=
    ⟨by decide +kernel, nofun, nofun, .nil⟩
  refine ⟨(kernel_digest_is_authenticode_iff hread).2.1.mpr ?_,
    ((kernel_digest_is_authenticode_iff hread₄).2.2.2.2 ?_ _ _ hread₈ ?_).mpr ?_, ?_⟩
  · rw [HashesTrailing, if_pos (by decide)]
    decide +kernel
  · rw [HashesTrailing, if_neg (by decide), if_pos (by decide +kernel)]
    exact .inl rfl
  · rw [HashesTrailing, if_neg (by decide), if_pos (by decide +kernel)]
    exact .inl rfl
  · decide +kernel
  · decide +kernel

/-- The last byte is behind the headers and no certificate table follows:
it is not hashed. -/
theorem samplePe_trailing_unhashed :
    (∀ last ∈ [1, 2], sampleFields.WellFormed (samplePe 232 last) ∧
      sampleFields.hashed (samplePe 232 last)
        ≠ sampleFields.authenticodeBytes (samplePe 232 last)) ∧
    sampleFields.hashed (samplePe 232 1) = sampleFields.hashed (samplePe 232 2) ∧
    samplePe 232 1 ≠ samplePe 232 2 := by
  have hread : ∀ last ∈ [1, 2], peFields (samplePe 232 last) = .ok sampleFields ∧
      sampleFields.hashed (samplePe 232 last)
        ≠ sampleFields.authenticodeBytes (samplePe 232 last) := by
    decide +kernel
  refine ⟨fun last hlast => ⟨⟨(hread last hlast).1, nofun, nofun, .nil⟩, (hread last hlast).2⟩, ?_⟩
  decide +kernel

end Dstack.Mr
