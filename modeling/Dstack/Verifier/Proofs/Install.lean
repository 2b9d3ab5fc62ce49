/-
What an installed image is bound to.

Whatever the archive held, an image that was installed consists of
`sha256sum.txt`, whose digest is the image hash, and of the files it
lists, each with its listed digest; the files that get measured are
among them. The stages of an installation each contribute one part:
unpacking stays in its directory, checking reads and does not write,
pruning removes what is not listed and nothing else, and moving carries
a directory over as it is.
-/
import Dstack.Verifier.Images

namespace Dstack.Verifier

open Lib Stateful

-- == the image

/-- What makes up an image: its list of files as text and as entries, and its
description. -/
structure Content where
  doc : Bytes
  manifest : List Sha256sum.Entry
  info : ImageInfo

/-- A directory holds an image under its identity. -/
structure Image (parseInfo : ParseImageInfo) (t : FileTree) (dir : Path) (hex : String)
    (c : Content) : Prop where
  listFile : t.node (dir ++ [sha256sumTxt]) = some (.file c.doc)
  identity : hexEncode (sha256 c.doc) = hex
  parsed : Sha256sum.parse c.doc = .ok c.manifest
  files : ∀ e ∈ c.manifest, ∃ data,
    t.node (dir ++ [utf8 e.name]) = some (.file data) ∧ sha256 data = e.hash
  only : ∀ name, t.node (dir ++ [name]) ≠ none →
    name = sha256sumTxt ∨ ∃ e ∈ c.manifest, utf8 e.name = name
  metadata : ∃ data text, t.node (dir ++ [utf8 "metadata.json"]) = some (.file data)
    ∧ fromUtf8 data = some text ∧ parseInfo text = .ok c.info
  measured : ∀ name ∈ ["metadata.json", c.info.bios, c.info.kernel, c.info.initrd],
    ∃ e ∈ c.manifest, e.name = name

variable {dir : Path} {hex : String} {c : Content}

lemma Image.congr {parseInfo : ParseImageInfo} {t t' : FileTree} {dir' : Path}
      (h : Image parseInfo t dir hex c) (hnode : ∀ q, t'.node (dir' ++ q) = t.node (dir ++ q)) :
    Image parseInfo t' dir' hex c where
  listFile := by rw [hnode, h.listFile]
  identity := h.identity
  parsed := h.parsed
  files e he := by
    rw [hnode]
    exact h.files e he
  only name hname := by
    rw [hnode] at hname
    exact h.only name hname
  metadata := by
    rw [hnode]
    exact h.metadata
  measured := h.measured

lemma Image.not_dir {parseInfo : ParseImageInfo} {t : FileTree}
      (h : Image parseInfo t dir hex c) (name : Name) :
    t.node (dir ++ [name]) ≠ some .dir := by
  intro hdir
  rcases h.only name (by rw [hdir]; exact Option.some_ne_none _) with rfl | ⟨e, he, rfl⟩
  · rw [h.listFile] at hdir
    cases hdir
  · obtain ⟨data, hdata, -⟩ := h.files e he
    rw [hdata] at hdir
    cases hdir

-- == listed names

lemma alphanumeric_range {c : Char} (h : Sha256sum.isAsciiAlphanumeric c = true) :
    48 ≤ c.toNat ∧ c.toNat < 128 := by
  have hle : ∀ d : Char, c ≤ d ↔ c.toNat ≤ d.toNat := fun d => Iff.rfl
  have hge : ∀ d : Char, d ≤ c ↔ d.toNat ≤ c.toNat := fun d => Iff.rfl
  simp only [Sha256sum.isAsciiAlphanumeric, decide_eq_true_eq, hle, hge,
    Char.reduceToNat] at h
  omega

lemma nameChar_range {c : Char}
    (h : (Sha256sum.isAsciiAlphanumeric c || c = '.' || c = '_' || c = '-') = true) :
    c.toNat < 128 ∧ c.toNat ≠ 47 := by
  simp only [Bool.or_eq_true, decide_eq_true_eq] at h
  rcases h with ((h | rfl) | rfl) | rfl
  · have := alphanumeric_range h
    omega
  · decide
  · decide
  · decide

lemma toNat_of_ascii {c : Char} {b : UInt8} (hc : c.toNat < 128)
    (h : UInt8.ofNat c.toNat = b) : c.toNat = b.toNat := by
  have hsize : c.toNat < UInt8.size := Nat.lt_trans hc (by decide)
  rw [← h, UInt8.toNat_ofNat_of_lt' hsize]

lemma utf8_nameChars {l : List Char}
    (h : ∀ c ∈ l, (Sha256sum.isAsciiAlphanumeric c || c = '.' || c = '_' || c = '-') = true) :
    l.flatMap String.utf8EncodeChar = l.map fun c => UInt8.ofNat c.toNat := by
  induction l with
  | nil => rfl
  | cons c l ih =>
    rw [List.flatMap_cons, List.map_cons,
      utf8EncodeChar_ascii (nameChar_range (h c List.mem_cons_self)).1,
      ih fun d hd => h d (List.mem_cons_of_mem _ hd)]
    rfl

lemma plain_of_isValidName {name : String}
    (h : Sha256sum.isValidName name.toList = true) : PlainName (utf8 name) := by
  simp only [Sha256sum.isValidName, Bool.and_eq_true, List.all_eq_true] at h
  obtain ⟨⟨hhead, hall⟩, -⟩ := h
  have hbytes : utf8 name = name.toList.map fun c => UInt8.ofNat c.toNat := by
    rw [← utf8_nameChars hall, ← utf8_ofList, String.ofList_toList]
  obtain ⟨c, hc, halnum⟩ := (Option.any_eq_true _ _).mp hhead
  obtain ⟨l, hl⟩ := List.head?_eq_some_iff.mp hc
  -- the first character is a letter or a digit, so the name is no dot
  have hfirst : ∀ r, utf8 name ≠ dot :: r := by
    intro r hr
    rw [hbytes, hl, List.map_cons] at hr
    have hrange := alphanumeric_range halnum
    have hdot : c.toNat = 46 := toNat_of_ascii hrange.2 (List.cons.inj hr).1
    omega
  refine ⟨?_, ?_, hfirst [], hfirst [dot]⟩
  · rw [hbytes]
    intro hs
    obtain ⟨c, hc, hcs⟩ := List.mem_map.mp hs
    have hrange := nameChar_range (hall c hc)
    exact hrange.2 (toNat_of_ascii hrange.1 hcs)
  · rw [hbytes, hl]
    exact List.cons_ne_nil _ _

-- == stages

variable {A : Archives} {parseInfo : ParseImageInfo} {t t' : FileTree} {u : Unit}

lemma SameOutside.refl (dir : Path) (t : FileTree) : SameOutside dir t t :=
  fun _ _ => rfl

lemma SameOutside.trans {t₁ t₂ t₃ : FileTree}
    (h₁ : SameOutside dir t₁ t₂) (h₂ : SameOutside dir t₂ t₃) : SameOutside dir t₁ t₃ :=
  fun p hp => (h₂ p hp).trans (h₁ p hp)

lemma extractEntries_sameOutside (hA : A.Confined) :
    ∀ {entries : List (Result TarEntry)} {extracted : Nat} {t t' : FileTree} {u : Unit},
      Runs (extractEntries A dir extracted entries) t u t' → SameOutside dir t t' := by
  intro entries
  induction entries with
  | nil =>
    intro extracted t t' u h
    obtain ⟨-, rfl⟩ := runs_pure.mp h
    exact .refl dir t
  | cons entry entries ih =>
    intro extracted t t' u h
    rw [extractEntries] at h
    simp only [extractEntry, runs_bind, runs_lift, runs_context, runs_pure] at h
    obtain ⟨e, _, ⟨-, rfl⟩, _, t₁, ⟨_, _, ⟨-, rfl⟩, _, _, ⟨-, rfl⟩, _, _, ⟨-, rfl⟩,
      inside, _, hunpack, _, _, ⟨-, rfl⟩, -, rfl⟩, hrest⟩ := h
    exact ((hA e dir).runs hunpack).trans (ih hrest)

variable {p : Path}

lemma runs_readToString {s : String} :
    Runs (readToString p) t s t'
      ↔ ∃ data, t.node p = some (.file data) ∧ fromUtf8 data = some s ∧ t = t' := by
  unfold readToString
  simp only [runs_bind, Fs.runs_readFile, runs_lift, ofOption_eq_ok]
  constructor
  · rintro ⟨data, _, ⟨hnode, rfl⟩, htext, rfl⟩
    exact ⟨data, hnode, htext, rfl⟩
  · rintro ⟨data, hnode, htext, rfl⟩
    exact ⟨data, t, ⟨hnode, rfl⟩, htext, rfl⟩

variable {manifest : List Sha256sum.Entry} {extractedDir : String}

lemma verifyImageManifest_ok {filesDoc : String}
    (h : Runs (verifyImageManifest extractedDir filesDoc) t manifest t') :
    t = t' ∧ Sha256sum.parse (utf8 filesDoc) = .ok manifest
      ∧ ∀ e ∈ manifest, ∃ data,
        t.node (resolve extractedDir ++ [utf8 e.name]) = some (.file data)
          ∧ sha256 data = e.hash := by
  unfold verifyImageManifest at h
  simp only [runs_bind, runs_lift, runs_pure] at h
  obtain ⟨entries, _, ⟨hparse, rfl⟩, _, t₁, heach, rfl, rfl⟩ := h
  have hwf := Sha256sum.parse_wellFormed hparse
  -- over the entries checked so far: nothing changed, and each has its digest
  have hdone := Runs.each_induct
    (fun done s => s = t ∧ ∀ e ∈ done, ∃ data,
      t.node (resolve (joinPath extractedDir e.name)) = some (.file data)
        ∧ sha256 data = e.hash)
    (by
      rintro done e s s' ⟨rfl, hdone⟩ hstep
      simp only [checkManifestEntry, runs_bind, runs_context, Fs.runs_openFile,
        Fs.runs_readFile, runs_lift, ensure_eq_ok] at hstep
      obtain ⟨_, _, ⟨-, rfl⟩, data, _, ⟨hnode, rfl⟩, hhash, rfl⟩ := hstep
      refine ⟨rfl, fun e' he' => ?_⟩
      rcases List.mem_append.mp he' with he' | he'
      · exact hdone e' he'
      · rw [List.mem_singleton.mp he']
        exact ⟨data, hnode, hhash⟩)
    ⟨rfl, fun e he => absurd he List.not_mem_nil⟩ heach
  obtain ⟨rfl, hfiles⟩ := hdone
  refine ⟨rfl, hparse, fun e he => ?_⟩
  rw [← resolve_joinPath (plain_of_isValidName (hwf.valid e he))]
  exact hfiles e he

/-- What an image directory may not hold. -/
abbrev Unlisted (manifest : List Sha256sum.Entry) (name : Name) : Prop :=
  name ≠ sha256sumTxt ∧ listed manifest name = false

lemma listed_eq_true {name : Name} :
    listed manifest name = true ↔ ∃ e ∈ manifest, utf8 e.name = name := by
  unfold listed
  rw [List.any_eq_true]
  simp only [decide_eq_true_eq]

lemma pruneEntry_node
    {name : Name} (h : Runs (pruneEntry extractedDir manifest name) t u t') (q : Path) :
    t'.node q = if Unlisted manifest name ∧ Path.Under (resolve extractedDir ++ [name]) q
      then none else t.node q := by
  unfold pruneEntry at h
  by_cases hun : Unlisted manifest name
  · have hcond : (name ≠ sha256sumTxt ∧ listed manifest name = false) := hun
    rw [if_pos hcond] at h
    simp only [runs_bind, Fs.runs_isDir] at h
    obtain ⟨b, _, ⟨-, rfl⟩, h⟩ := h
    rw [if_congr (and_iff_right hun) rfl rfl]
    cases b with
    | true => exact Fs.removeDirAll_node (runs_context.mp h) q
    | false => exact Fs.removeFile_node (runs_context.mp h) q
  · have hcond : ¬ (name ≠ sha256sumTxt ∧ listed manifest name = false) := hun
    rw [if_neg hcond] at h
    obtain ⟨-, rfl⟩ := runs_pure.mp h
    rw [if_neg fun hu => hun hu.1]

structure Pruned (manifest : List Sha256sum.Entry) (dir : Path) (t t' : FileTree) :
    Prop where
  kept : ∀ p, (∀ name, Unlisted manifest name → ¬ Path.Under (dir ++ [name]) p) →
    t'.node p = t.node p
  gone : ∀ name, Unlisted manifest name → t'.node (dir ++ [name]) = none

lemma pruneUnlistedImageFiles_ok
    (h : Runs (pruneUnlistedImageFiles extractedDir manifest) t u t') :
    Pruned manifest (resolve extractedDir) t t' := by
  unfold pruneUnlistedImageFiles at h
  simp only [runs_bind, runs_context, Fs.runs_readDir] at h
  obtain ⟨files, _, ⟨-, rfl, rfl⟩, heach⟩ := h
  have hdone := Runs.each_induct
    (fun done s =>
      (∀ p, (∀ name, Unlisted manifest name →
        ¬ Path.Under (resolve extractedDir ++ [name]) p) → s.node p = t.node p)
      ∧ (∀ p, t.node p = none → s.node p = none)
      ∧ ∀ name ∈ done, Unlisted manifest name →
        s.node (resolve extractedDir ++ [name]) = none)
    (by
      rintro done a s s' ⟨hkept, hnew, hgone⟩ hstep
      have hnode := pruneEntry_node hstep
      refine ⟨fun p hp => ?_, fun p hp => ?_, fun name hname hun => ?_⟩
      · rw [hnode, if_neg fun hu => hp a hu.1 hu.2]
        exact hkept p hp
      · rw [hnode, hnew p hp, ite_self]
      · rw [hnode]
        rcases List.mem_append.mp hname with hname | hname
        · rw [hgone name hname hun, ite_self]
        · rw [List.mem_singleton.mp hname] at hun ⊢
          exact if_pos ⟨hun, List.prefix_rfl⟩)
    ⟨fun p _ => rfl, fun p hp => hp, fun name hname => absurd hname List.not_mem_nil⟩
    heach
  obtain ⟨hkept, hnew, hgone⟩ := hdone
  refine ⟨hkept, fun name hun => ?_⟩
  by_cases hname : t.node (resolve extractedDir ++ [name]) = none
  · exact hnew _ hname
  · exact hgone name (FileTree.mem_children.mpr hname) hun

lemma checkMeasuredFilesAreListed_ok
    (h : Runs (checkMeasuredFilesAreListed parseInfo extractedDir manifest) t u t') :
    t = t' ∧ ∃ data text info,
      t.node (resolve extractedDir ++ [utf8 "metadata.json"]) = some (.file data)
      ∧ fromUtf8 data = some text ∧ parseInfo text = .ok info
      ∧ ∀ name ∈ ["metadata.json", info.bios, info.kernel, info.initrd],
        ∃ e ∈ manifest, e.name = name := by
  have hplain : PlainName (utf8 "metadata.json") := by decide +kernel
  unfold checkMeasuredFilesAreListed at h
  simp only [runs_bind, runs_lift, runs_context, runs_readToString, ensure_eq_ok,
    context_eq_ok, Result.forM_eq_ok, listed_eq_true, utf8_inj,
    resolve_joinPath hplain] at h
  obtain ⟨_, _, ⟨hmeta, rfl⟩, text, _, ⟨data, hnode, htext, rfl⟩, info, _, ⟨hinfo, rfl⟩,
    hlisted, rfl⟩ := h
  refine ⟨rfl, data, text, info, hnode, htext, hinfo, fun name hname => ?_⟩
  rcases List.mem_cons.mp hname with rfl | hname
  · exact hmeta
  · exact hlisted name hname

lemma verifyExtractedImage_ok
    (h : Runs (verifyExtractedImage parseInfo extractedDir hex) t u t') :
    SameOutside (resolve extractedDir) t t'
      ∧ ∃ c, Image parseInfo t' (resolve extractedDir) hex c := by
  have hplain : PlainName (utf8 "sha256sum.txt") := by decide +kernel
  unfold verifyExtractedImage at h
  simp only [runs_bind, runs_lift, runs_context, runs_readToString, ensure_eq_ok,
    resolve_joinPath hplain] at h
  obtain ⟨filesDoc, _, ⟨doc, hdoc, htext, rfl⟩, _, _, ⟨hhex, rfl⟩, manifest, t₁, hmanifest,
    _, t₂, hprune, hcheck⟩ := h
  obtain ⟨rfl, hparse, hfiles⟩ := verifyImageManifest_ok hmanifest
  obtain ⟨hkept, hgone⟩ := pruneUnlistedImageFiles_ok hprune
  obtain ⟨rfl, data, text, info, hnode, hmetaText, hinfo, hmeasured⟩ :=
    checkMeasuredFilesAreListed_ok hcheck
  rw [utf8_of_fromUtf8 htext] at hparse hhex
  -- a thing with an allowed name is not below one that was removed
  have hstay : ∀ name, ¬ Unlisted manifest name →
      t₂.node (resolve extractedDir ++ [name]) = t.node (resolve extractedDir ++ [name]) := by
    intro name hname
    refine hkept _ fun name' hun hu => hname ?_
    have := hu.eq_of_length (by simp)
    rw [List.append_cancel_left_eq, List.cons.injEq] at this
    rw [← this.1]
    exact hun
  refine ⟨fun p hp => hkept p fun name _ hu => hp ((List.prefix_append _ _).trans hu),
    ⟨doc, manifest, info⟩, ?_, hhex, hparse, fun e he => ?_, fun name hname => ?_,
    ⟨data, text, hnode, hmetaText, hinfo⟩, hmeasured⟩
  · rw [hstay _ fun hun => hun.1 rfl]
    exact hdoc
  · have hlisted : listed manifest (utf8 e.name) = true := listed_eq_true.mpr ⟨e, he, rfl⟩
    rw [hstay _ fun hun => by rw [hun.2] at hlisted; cases hlisted]
    exact hfiles e he
  · by_cases hun : Unlisted manifest name
    · exact absurd (hgone name hun) hname
    · by_cases htxt : name = sha256sumTxt
      · exact .inl htxt
      · right
        rw [← listed_eq_true]
        exact Bool.of_not_eq_false fun hf => hun ⟨htxt, hf⟩

-- == installation

structure Stages (A : Archives) (parseInfo : ParseImageInfo) (tmpDir hex : String)
    (dst parent : Path) (t t₁ t₂ t₃ t₄ t₅ t' : FileTree) : Prop where
  created : Runs (Fs.createDirAll (resolve (joinPath tmpDir "extracted"))) t () t₁
  extracted : Runs (extractImageArchive A (resolve (joinPath tmpDir "image.tar.gz"))
    (resolve (joinPath tmpDir "extracted"))) t₁ () t₂
  verified : Runs (verifyExtractedImage parseInfo (joinPath tmpDir "extracted") hex)
    t₂ () t₃
  removed : Runs (removeDestination dst) t₃ () t₄
  above : Runs (Fs.createDirAll parent) t₄ () t₅
  moved : Runs (Fs.rename (resolve (joinPath tmpDir "extracted")) dst) t₅ () t'
  target : ∃ name, dst = parent ++ [name]

lemma renamePath_ok {src dst : String} (h : Runs (Fs.renamePath src dst) t u t') :
    endsInName dst = true ∧ Runs (Fs.rename (resolve src) (resolve dst)) t () t' := by
  unfold Fs.renamePath at h
  split at h
  next hname => exact ⟨hname.2, h⟩
  next => cases (runs_lift.mp h).1

lemma installImage_ok {tmpDir dstDir : String}
    (h : Runs (installImage A parseInfo tmpDir hex dstDir) t u t') :
    ∃ parent t₁ t₂ t₃ t₄ t₅, parentPath dstDir = some parent
      ∧ Stages A parseInfo tmpDir hex (resolve dstDir) parent t t₁ t₂ t₃ t₄ t₅ t' := by
  unfold installImage at h
  simp only [runs_bind, runs_context, runs_lift, ofOption_eq_ok] at h
  obtain ⟨_, t₁, hcreated, _, t₂, hextracted, _, t₃, hverified, _, t₄, hremoved, parent, _,
    ⟨hparent, rfl⟩, _, t₅, habove, hmoved⟩ := h
  obtain ⟨hname, hmoved⟩ := renamePath_ok hmoved
  exact ⟨parent, t₁, t₂, t₃, t₄, t₅, hparent, hcreated, hextracted, hverified, hremoved,
    habove, hmoved, resolve_of_parentPath hname hparent⟩

lemma removeDestination_node {dst : Path} (h : Runs (removeDestination dst) t u t')
    (q : Path) : t'.node q = if Path.Under dst q then none else t.node q := by
  obtain ⟨b, _, hexists, h⟩ := runs_bind.mp h
  obtain ⟨hb, rfl⟩ := Fs.runs_exists.mp hexists
  cases b with
  | true => exact Fs.removeDirAll_node (runs_context.mp h) q
  | false =>
    obtain ⟨-, rfl⟩ := runs_pure.mp h
    have hnone : t.node dst = none := by
      rw [← Option.not_isSome_iff_eq_none, hb]
      exact Bool.false_ne_true
    by_cases hu : Path.Under dst q
    · rw [if_pos hu]
      by_cases he : dst = q
      · rw [← he]
        exact hnone
      · refine FileTree.nothing_below ?_ hu he
        rw [hnone]
        exact nofun
    · rw [if_neg hu]

section

variable {tmpDir hex : String} {dst parent : Path} {t₁ t₂ t₃ t₄ t₅ : FileTree}

lemma resolve_extracted (tmpDir : String) :
    resolve (joinPath tmpDir "extracted") = resolve tmpDir ++ [utf8 "extracted"] :=
  resolve_joinPath (by decide +kernel)

variable (h : Stages A parseInfo tmpDir hex dst parent t t₁ t₂ t₃ t₄ t₅ t')
include h

/-- The destination and the extraction directory lie apart: otherwise
there would have been nothing to move, or no place to move it to. -/
lemma Stages.apart :
    ¬ Path.Under dst (resolve (joinPath tmpDir "extracted"))
      ∧ ¬ Path.Under (resolve (joinPath tmpDir "extracted")) dst := by
  obtain ⟨name, hdst⟩ := h.target
  have hsource := Fs.rename_source h.moved
  have hout : ¬ Path.Under dst (resolve (joinPath tmpDir "extracted")) := by
    intro hu
    apply hsource
    rw [Fs.createDirAll_node h.above, removeDestination_node h.removed, if_pos hu, if_neg]
    intro hparent
    have := (hu.trans hparent).length_le
    rw [hdst, List.length_append, List.length_singleton] at this
    omega
  refine ⟨hout, (Fs.rename_moved h.moved ?_).outside⟩
  intro he
  rw [he] at hout
  exact hout List.prefix_rfl

lemma Stages.node_below (q : Path) :
    t'.node (dst ++ q) = t₃.node (resolve (joinPath tmpDir "extracted") ++ q) := by
  obtain ⟨hout, hin⟩ := h.apart
  obtain ⟨name, hdst⟩ := h.target
  have hne : resolve (joinPath tmpDir "extracted") ≠ dst := by
    intro he
    rw [he] at hin
    exact hin List.prefix_rfl
  rw [(Fs.rename_moved h.moved hne).node, if_pos (List.prefix_append _ _), List.drop_left,
    Fs.createDirAll_node h.above, if_neg, removeDestination_node h.removed, if_neg]
  · intro hu
    rcases List.prefix_or_prefix_of_prefix hu (List.prefix_append _ q) with hu | hu
    · exact hout hu
    · exact hin hu
  · intro hu
    apply hin
    rw [hdst]
    exact ((List.prefix_append _ q).trans hu).trans (List.prefix_append _ _)

lemma Stages.image : ∃ c, Image parseInfo t' dst hex c := by
  obtain ⟨-, c, hc⟩ := verifyExtractedImage_ok h.verified
  exact ⟨c, hc.congr h.node_below⟩

lemma Stages.tmp_exists (hp : Path.Under p (resolve tmpDir)) : t.node p = some .dir := by
  have hplain : PlainName (utf8 "image.tar.gz") := by decide +kernel
  have hextracted := h.extracted
  unfold extractImageArchive at hextracted
  simp only [runs_bind, runs_context, Fs.runs_openFile, resolve_joinPath hplain]
    at hextracted
  obtain ⟨_, _, ⟨hopen, rfl⟩, -⟩ := hextracted
  rw [Fs.createDirAll_node h.created, if_neg] at hopen
  · refine FileTree.node_above hopen (hp.trans (List.prefix_append _ _)) ?_
    intro he
    have := hp.length_le
    rw [he, List.length_append, List.length_singleton] at this
    omega
  · -- the archive is not on the way to the extraction directory
    rw [resolve_extracted]
    intro hu
    have := hu.eq_of_length (by simp)
    rw [List.append_cancel_left_eq, List.cons.injEq] at this
    exact absurd this.1 (by decide +kernel)

/-- What an installation leaves outside its destination was there, but
for directories above the destination that were missing. -/
lemma Stages.node_outside (hA : A.Confined) (hnew : t.node p = none) (hnode : t'.node p ≠ none) :
    Path.Under dst p ∨ Path.Under p parent := by
  obtain ⟨hout, hin⟩ := h.apart
  have hne : resolve (joinPath tmpDir "extracted") ≠ dst := by
    intro he
    rw [he] at hin
    exact hin List.prefix_rfl
  by_cases hdst : Path.Under dst p
  · exact .inl hdst
  by_cases hparent : Path.Under p parent
  · exact .inr hparent
  exfalso
  apply hnode
  rw [(Fs.rename_moved h.moved hne).node, if_neg hdst]
  by_cases hex : Path.Under (resolve (joinPath tmpDir "extracted")) p
  · exact if_pos hex
  obtain ⟨hverified, -⟩ := verifyExtractedImage_ok h.verified
  have hextracted := h.extracted
  unfold extractImageArchive at hextracted
  simp only [runs_bind, runs_context, Fs.runs_openFile, Fs.runs_readFile] at hextracted
  obtain ⟨_, _, ⟨-, rfl⟩, _, _, ⟨-, rfl⟩, hextracted⟩ := hextracted
  rw [if_neg hex, Fs.createDirAll_node h.above, if_neg hparent,
    removeDestination_node h.removed, if_neg hdst, hverified p hex,
    extractEntries_sameOutside hA hextracted p hex, Fs.createDirAll_node h.created, if_neg,
    hnew]
  intro hup
  rw [resolve_extracted] at hup hex
  rcases Path.under_concat.mp hup with he | hup
  · rw [he] at hex
    exact hex List.prefix_rfl
  · rw [h.tmp_exists hup] at hnew
    cases hnew

end

-- == measuring

variable {D : Downloads} {imageCacheDir : String} {vmConfig : VmConfig}

/-- Where the cache keeps the image of a configuration. -/
def imageDirOf (imageCacheDir : String) (vmConfig : VmConfig) : String :=
  joinPath (imagesDir imageCacheDir) (hexEncode vmConfig.osImageHash)

/-- The files that are measured. -/
def ImagePaths.files (paths : ImagePaths) : List String :=
  [paths.fwPath, paths.kernelPath, paths.initrdPath]

lemma Image.ensure {paths : ImagePaths}
    (h : Image parseInfo t (resolve (imageDirOf imageCacheDir vmConfig)) hex c) :
    Runs (ensureImageDownloaded A parseInfo D imageCacheDir vmConfig) t paths t'
      ↔ paths = c.info.paths (imageDirOf imageCacheDir vmConfig) ∧ t = t' := by
  have hplain : PlainName (utf8 "metadata.json") := by decide +kernel
  obtain ⟨data, text, hnode, htext, hinfo⟩ := h.metadata
  have hthere : ∀ download, Runs (downloadMissing
      (resolve (imageDirOf imageCacheDir vmConfig) ++ [utf8 "metadata.json"]) download)
      t () t := by
    intro download
    unfold downloadMissing
    rw [runs_bind]
    refine ⟨true, t, Fs.runs_exists.mpr ⟨?_, rfl⟩, runs_pure.mpr ⟨rfl, rfl⟩⟩
    rw [hnode]
    rfl
  unfold ensureImageDownloaded
  simp only [runs_bind, runs_lift, runs_context, runs_readToString, runs_pure,
    context_eq_ok, resolve_joinPath hplain]
  constructor
  · rintro ⟨_, t₁, hdownload, text', _, ⟨data', hnode', htext', rfl⟩, info', _,
      ⟨hinfo', rfl⟩, rfl, rfl⟩
    obtain ⟨-, rfl⟩ := hdownload.unique (hthere _)
    cases hnode.symm.trans hnode'
    cases htext.symm.trans htext'
    cases hinfo.symm.trans hinfo'
    exact ⟨rfl, rfl⟩
  · rintro ⟨rfl, rfl⟩
    exact ⟨(), t, hthere _, text, t, ⟨data, hnode, htext, rfl⟩, c.info, t, ⟨hinfo, rfl⟩,
      rfl, rfl⟩

lemma Image.resolve_measured {imageDir : String}
    (h : Image parseInfo t (resolve imageDir) hex c) :
    ∀ name ∈ ["metadata.json", c.info.bios, c.info.kernel, c.info.initrd],
      resolve (joinPath imageDir name) = resolve imageDir ++ [utf8 name] := by
  intro name hmem
  obtain ⟨e, he, rfl⟩ := h.measured name hmem
  have hwf := Sha256sum.parse_wellFormed h.parsed
  exact resolve_joinPath (plain_of_isValidName (hwf.valid e he))

lemma Image.files_listed {imageDir : String} (h : Image parseInfo t (resolve imageDir) hex c) :
    ∀ path ∈ (c.info.paths imageDir).files, ∃ e ∈ c.manifest, ∃ data,
      resolve path = resolve imageDir ++ [utf8 e.name]
      ∧ t.node (resolve path) = some (.file data) ∧ sha256 data = e.hash := by
  have hname : ∀ name ∈ ["metadata.json", c.info.bios, c.info.kernel, c.info.initrd],
      ∃ e ∈ c.manifest, ∃ data,
        resolve (joinPath imageDir name) = resolve imageDir ++ [utf8 e.name]
        ∧ t.node (resolve (joinPath imageDir name)) = some (.file data)
        ∧ sha256 data = e.hash := by
    intro name hmem
    obtain ⟨e, he, rfl⟩ := h.measured name hmem
    obtain ⟨data, hnode, hhash⟩ := h.files e he
    rw [h.resolve_measured _ hmem]
    exact ⟨e, he, data, rfl, hnode, hhash⟩
  intro path hpath
  simp only [ImagePaths.files, ImageInfo.paths, List.mem_cons, List.not_mem_nil, or_false]
    at hpath
  rcases hpath with rfl | rfl | rfl
  · exact hname _ (by simp)
  · exact hname _ (by simp)
  · exact hname _ (by simp)

/-- Their contents. -/
def ImagePaths.measured (paths : ImagePaths) (t : FileTree) : List (Option Node) :=
  paths.files.map fun path => t.node (resolve path)

lemma Image.measured_eq {imageDir : String} (h : Image parseInfo t (resolve imageDir) hex c) :
    (c.info.paths imageDir).measured t
      = [c.info.bios, c.info.kernel, c.info.initrd].map fun name =>
        t.node (resolve imageDir ++ [utf8 name]) := by
  have hname := h.resolve_measured
  simp only [ImagePaths.measured, ImagePaths.files, ImageInfo.paths, List.map_cons,
    List.map_nil]
  rw [hname c.info.bios (by simp), hname c.info.kernel (by simp),
    hname c.info.initrd (by simp)]

-- == two verifiers

/-- The contents of the files in a directory. -/
def contents (t : FileTree) (dir : Path) : List Bytes :=
  (t.children dir).filterMap fun name =>
    match t.node (dir ++ [name]) with
    | some (.file data) => some data
    | _ => none

lemma mem_contents {name : Name} {data : Bytes}
    (h : t.node (dir ++ [name]) = some (.file data)) : data ∈ contents t dir := by
  refine List.mem_filterMap.mpr ⟨name, FileTree.mem_children.mpr ?_, ?_⟩
  · rw [h]
    exact Option.some_ne_none _
  · rw [h]

lemma Image.unique {t₁ t₂ : FileTree} {dir₁ dir₂ : Path}
    {c₁ c₂ : Content} (h₁ : Image parseInfo t₁ dir₁ hex c₁) (h₂ : Image parseInfo t₂ dir₂ hex c₂)
    (hcf : Sha256.CollisionFreeOn (contents t₁ dir₁ ++ contents t₂ dir₂)) :
    c₁ = c₂ ∧ ∀ name, t₁.node (dir₁ ++ [name]) = t₂.node (dir₂ ++ [name]) := by
  have hsame : ∀ {name₁ name₂ : Name} {data₁ data₂ : Bytes},
      t₁.node (dir₁ ++ [name₁]) = some (.file data₁) →
      t₂.node (dir₂ ++ [name₂]) = some (.file data₂) →
      sha256 data₁ = sha256 data₂ → data₁ = data₂ := by
    intro name₁ name₂ data₁ data₂ hd₁ hd₂ heq
    exact hcf _ (List.mem_append_left _ (mem_contents hd₁)) _
      (List.mem_append_right _ (mem_contents hd₂)) heq
  have hdoc : c₁.doc = c₂.doc := by
    refine hsame h₁.listFile h₂.listFile (hexEncode_injective ?_)
    rw [h₁.identity, h₂.identity]
  have hmanifest : c₁.manifest = c₂.manifest := by
    have := h₁.parsed
    rw [hdoc, h₂.parsed] at this
    exact (Except.ok.inj this).symm
  have hfile : ∀ e ∈ c₁.manifest,
      t₁.node (dir₁ ++ [utf8 e.name]) = t₂.node (dir₂ ++ [utf8 e.name]) := by
    intro e he
    obtain ⟨data₁, hd₁, hh₁⟩ := h₁.files e he
    obtain ⟨data₂, hd₂, hh₂⟩ := h₂.files e (hmanifest ▸ he)
    rw [hd₁, hd₂, hsame hd₁ hd₂ (hh₁.trans hh₂.symm)]
  have hinfo : c₁.info = c₂.info := by
    obtain ⟨data₁, text₁, hd₁, ht₁, hi₁⟩ := h₁.metadata
    obtain ⟨data₂, text₂, hd₂, ht₂, hi₂⟩ := h₂.metadata
    obtain ⟨e, he, hname⟩ := h₁.measured "metadata.json" List.mem_cons_self
    have := hfile e he
    rw [hname, hd₁, hd₂] at this
    cases this
    cases ht₁.symm.trans ht₂
    exact Except.ok.inj (hi₁.symm.trans hi₂)
  refine ⟨?_, fun name => ?_⟩
  · obtain ⟨doc, manifest, info⟩ := c₁
    obtain ⟨doc', manifest', info'⟩ := c₂
    cases hdoc
    cases hmanifest
    cases hinfo
    rfl
  · by_cases htxt : name = sha256sumTxt
    · rw [htxt, h₁.listFile, h₂.listFile, hdoc]
    · by_cases hlisted : ∃ e ∈ c₁.manifest, utf8 e.name = name
      · obtain ⟨e, he, rfl⟩ := hlisted
        exact hfile e he
      · -- neither holds a thing that is not listed
        have hnone₁ : t₁.node (dir₁ ++ [name]) = none := by
          by_contra hn
          rcases h₁.only name hn with h | h
          · exact htxt h
          · exact hlisted h
        have hnone₂ : t₂.node (dir₂ ++ [name]) = none := by
          by_contra hn
          rcases h₂.only name hn with h | h
          · exact htxt h
          · rw [← hmanifest] at h
            exact hlisted h
        rw [hnone₁, hnone₂]

lemma Image.node_below {t₁ t₂ : FileTree} {dir₁ dir₂ : Path}
    {c₁ c₂ : Content} (h₁ : Image parseInfo t₁ dir₁ hex c₁) (h₂ : Image parseInfo t₂ dir₂ hex c₂)
    (hcf : Sha256.CollisionFreeOn (contents t₁ dir₁ ++ contents t₂ dir₂))
    {q : Path} (hq : q ≠ []) : t₁.node (dir₁ ++ q) = t₂.node (dir₂ ++ q) := by
  obtain ⟨name, rest, rfl⟩ := List.exists_cons_of_ne_nil hq
  have hsame := (h₁.unique h₂ hcf).2 name
  cases rest with
  | nil => exact hsame
  | cons next rest =>
    have hbelow : ∀ {t : FileTree} {dir : Path} {c : Content},
        Image parseInfo t dir hex c → t.node (dir ++ name :: next :: rest) = none := by
      intro t dir c h
      have hsplit : dir ++ name :: next :: rest = dir ++ [name] ++ next :: rest := by simp
      rw [hsplit]
      refine FileTree.nothing_below (h.not_dir name) (List.prefix_append _ _) ?_
      intro he
      exact List.cons_ne_nil _ _ (List.self_eq_append_right.mp he)
    rw [hbelow h₁, hbelow h₂]

/-- An installed image is bound to its hash: it is the listed files with
their digests and the list with its own, nothing else was created, what
gets measured is listed, and whoever installs the same hash has the same
files. The temporary directory is in the directory that the destination
is in, as a download has it. -/
theorem install_binds_image {tmpDir hex dstDir : String} (hA : A.Confined)
    (hcache : Path.Under (resolve dstDir).dropLast (resolve tmpDir))
    (h : Runs (installImage A parseInfo tmpDir hex dstDir) t () t') :
    ∃ c, Image parseInfo t' (resolve dstDir) hex c
      ∧ (∀ p, t.node p = none → t'.node p ≠ none → Path.Under (resolve dstDir) p)
      ∧ (∀ (D : Downloads) (imageCacheDir : String) (vmConfig : VmConfig),
        dstDir = imageDirOf imageCacheDir vmConfig →
        ∃ paths, Runs (ensureImageDownloaded A parseInfo D imageCacheDir vmConfig) t' paths t'
          ∧ ∀ path ∈ paths.files, ∃ e ∈ c.manifest, ∃ data,
            resolve path = resolve dstDir ++ [utf8 e.name]
            ∧ t'.node (resolve path) = some (.file data) ∧ sha256 data = e.hash)
      ∧ ∀ (A₂ : Archives) (tmpDir₂ dstDir₂ : String) (t₂ t₂' : FileTree),
        Runs (installImage A₂ parseInfo tmpDir₂ hex dstDir₂) t₂ () t₂' →
        Sha256.CollisionFreeOn
          (contents t' (resolve dstDir) ++ contents t₂' (resolve dstDir₂)) →
        (∀ q, q ≠ [] → t'.node (resolve dstDir ++ q) = t₂'.node (resolve dstDir₂ ++ q))
        ∧ ∀ (D D₂ : Downloads) (imageCacheDir imageCacheDir₂ : String)
          (vmConfig vmConfig₂ : VmConfig) (paths paths₂ : ImagePaths) (t'' t₂'' : FileTree),
          dstDir = imageDirOf imageCacheDir vmConfig →
          dstDir₂ = imageDirOf imageCacheDir₂ vmConfig₂ →
          Runs (ensureImageDownloaded A parseInfo D imageCacheDir vmConfig) t' paths t'' →
          Runs (ensureImageDownloaded A₂ parseInfo D₂ imageCacheDir₂ vmConfig₂) t₂' paths₂
            t₂'' →
          paths.measured t'' = paths₂.measured t₂''
          ∧ paths.kernelCmdline = paths₂.kernelCmdline := by
  obtain ⟨parent, t₁, t₂, t₃, t₄, t₅, hparent, hstages⟩ := installImage_ok h
  obtain ⟨c, hc⟩ := hstages.image
  refine ⟨c, hc, fun p hnew hnode => ?_, ?_, ?_⟩
  · rcases hstages.node_outside hA hnew hnode with hp | hp
    · exact hp
    · -- the directories above the destination hold the temporary directory
      obtain ⟨name, hdst⟩ := hstages.target
      rw [hdst, List.dropLast_concat] at hcache
      rw [hstages.tmp_exists (hp.trans hcache)] at hnew
      cases hnew
  · rintro D imageCacheDir vmConfig rfl
    exact ⟨_, hc.ensure.mpr ⟨rfl, rfl⟩, hc.files_listed⟩
  · intro A₂ tmpDir₂ dstDir₂ t₂ t₂' h₂ hcf
    obtain ⟨_, _, _, _, _, _, -, hstages₂⟩ := installImage_ok h₂
    obtain ⟨c₂, hc₂⟩ := hstages₂.image
    refine ⟨fun q hq => hc.node_below hc₂ hcf hq, ?_⟩
    rintro D D₂ imageCacheDir imageCacheDir₂ vmConfig vmConfig₂ paths paths₂ t'' t₂'' rfl rfl
      hpaths hpaths₂
    obtain ⟨rfl, rfl⟩ := hc.ensure.mp hpaths
    obtain ⟨rfl, rfl⟩ := hc₂.ensure.mp hpaths₂
    obtain ⟨rfl, hsame⟩ := hc.unique hc₂ hcf
    refine ⟨?_, rfl⟩
    rw [hc.measured_eq, hc₂.measured_eq]
    exact List.map_congr_left fun name _ => hsame (utf8 name)

-- == a small image

def entryNames (path : Bytes) : Option (List Name) :=
  (components path).foldr (fun c names =>
    match c with
    | .normal name => names.map (name :: ·)
    | .parentDir => none
    | _ => names) (some [])

def unpackAt (entry : TarEntry) (target : Path) : Fs Unit := do
  if entry.entryType = .directory
      ∨ (entry.ustar = false ∧ entry.path.getLast? = some slash) then Fs.ensureDir target
  else
    let data ← .lift entry.data
    if ← Fs.exists? target then Fs.removeFile target else pure ()
    Fs.create target (.file data)

/-- What the `tar` crate documents of unpacking one entry: names below
the directory, made with the directories above them, in the place of a
file of that name. -/
def tarUnpackIn (entry : TarEntry) (dir : Path) : Fs Bool :=
  match entryNames entry.path with
  | none => pure false
  | some [] => pure true
  | some names => do
      Fs.createDirs dir names.dropLast
      unpackAt entry (dir ++ names)
      pure true

instance (dir : Path) : Std.Refl (SameOutside dir) := ⟨SameOutside.refl dir⟩

instance (dir : Path) : IsTrans FileTree (SameOutside dir) :=
  ⟨fun _ _ _ => SameOutside.trans⟩

lemma keeps_create (hp : Path.Under dir p) (n : Node) :
    Keeps (SameOutside dir) (Fs.create p n) := by
  refine .update fun s s' hs q hq => ?_
  have hrun : Runs (Fs.create p n) s () s' := runs_update.mpr hs
  rw [(Fs.runs_create hrun).2.2, if_neg]
  rintro rfl
  exact hq hp

lemma keeps_removeFile (hp : Path.Under dir p) :
    Keeps (SameOutside dir) (Fs.removeFile p) := by
  refine .update fun s s' hs q hq => ?_
  have hrun : Runs (Fs.removeFile p) s () s' := runs_update.mpr hs
  rw [Fs.removeFile_node hrun, if_neg]
  intro hu
  exact hq (hp.trans hu)

lemma keeps_ensureDir (hp : Path.Under dir p) :
    Keeps (SameOutside dir) (Fs.ensureDir p) := by
  refine .bind (.inspect _) fun b => ?_
  cases b with
  | true => exact .pure ()
  | false => exact keeps_create hp .dir

lemma keeps_createDirs :
    ∀ {names : List Name} {p : Path}, Path.Under dir p →
      Keeps (SameOutside dir) (Fs.createDirs p names) := by
  intro names
  induction names with
  | nil =>
    intro p hp
    exact keeps_ensureDir hp
  | cons name names ih =>
    intro p hp
    exact .bind (keeps_ensureDir hp) fun _ => ih (hp.trans (List.prefix_append _ _))

lemma keeps_unpackAt {target : Path} (ht : Path.Under dir target)
    (entry : TarEntry) : Keeps (SameOutside dir) (unpackAt entry target) := by
  unfold unpackAt
  split
  · exact keeps_ensureDir ht
  · refine .bind (.inspect _) fun data => .bind (.inspect _) fun b => ?_
    cases b with
    | true => exact .bind (keeps_removeFile ht) fun _ => keeps_create ht _
    | false => exact .bind (.pure ()) fun _ => keeps_create ht _

lemma keeps_tarUnpackIn (entry : TarEntry) (dir : Path) :
    Keeps (SameOutside dir) (tarUnpackIn entry dir) := by
  unfold tarUnpackIn
  split
  · exact .pure false
  · exact .pure true
  · refine .bind (keeps_createDirs List.prefix_rfl) fun _ => ?_
    exact .bind (keeps_unpackAt (List.prefix_append _ _) entry) fun _ => .pure true

def sampleInfoJson : String :=
  "\x7b\"cmdline\":\"\",\"kernel\":\"bzImage\",\"initrd\":\"initrd\",\"bios\":\"ovmf.fd\"\x7d"

def sampleParseInfo : ParseImageInfo := fun text =>
  if text = sampleInfoJson then
    .ok { cmdline := "", kernel := "bzImage", initrd := "initrd", bios := "ovmf.fd" }
  else .error "expected value at line 1 column 1"

def sampleManifest : List Sha256sum.Entry :=
  [⟨sha256 (utf8 "kernel"), "bzImage"⟩, ⟨sha256 (utf8 "initrd"), "initrd"⟩,
    ⟨sha256 (utf8 sampleInfoJson), "metadata.json"⟩, ⟨sha256 (utf8 "firmware"), "ovmf.fd"⟩]

def sampleDoc : String := Sha256sum.render sampleManifest

def sampleHash : String := hexEncode (sha256 (utf8 sampleDoc))

def sampleEntries : List TarEntry :=
  [⟨utf8 "doc/", .directory, 0, true, .ok []⟩,
    ⟨utf8 "doc/readme", .regular, 8, true, .ok (utf8 "unlisted")⟩,
    ⟨utf8 "sha256sum.txt", .regular, 306, true, .ok (utf8 sampleDoc)⟩,
    ⟨utf8 "bzImage", .regular, 6, true, .ok (utf8 "kernel")⟩,
    ⟨utf8 "initrd", .regular, 6, true, .ok (utf8 "initrd")⟩,
    ⟨utf8 "metadata.json", .regular, 68, true, .ok (utf8 sampleInfoJson)⟩,
    ⟨utf8 "ovmf.fd", .regular, 8, true, .ok (utf8 "firmware")⟩]

def sampleTarball : Bytes :=
  [
      0x1f8b0800000000000203ed98dd8edb2010857d9da7b07cbd4a071806bc6fd0c7,
      0x80015ab7b123d9deb66ad5772fbb895435fdb94bb24de6bb018f90c13a3acc91,
      0xd39edf3467062aceda97b1723afe614e56e9a6b5cd05785ad630d72d9bfb2455,
      0xfde71cd298cfab3f21fe5d7f75aabf23524d0ba2fff93f7fda0dcb9a5323dc25,
      0xcbfba02d2d4fe376fdb25ec9fff8b3371cea0a343af1ff25a05e9b9454644002,
      0xf09a6db23678a37af0ac3168af3d4174457122d6d1f55cea6aefad63323db76d,
      0xfcfa760ceff206fa4c0cca27cd9eb10763c0937a79b9d3e8315957fb4c513ab3,
      0x8594d817abb30dcc9cd141d16d3b4cc33aa78d53b5dc171f559f9903168baeb7,
      0xcfc771ca991482f53a65d66c4aa284e05d3d6b5ddc53cad1806bdb31af218535,
      0x6c3f2cfb69c32616ac7bab820103417d1d186538703401f1b94aaa90672a2187,
      0x082e3be34801c77a3a6f6cdbee3f8d655bd2e606f53faa77f6fcf7cffe0f74da,
      0xff356af1ff25f898e729efa40fde2b873bb7796dfe57351288ff6f447fe1f5f2,
      0x4b54ba92ff15e069fe4765c4ff97e05bc763da0d53ee1ebbeea13bc4813a3fe6,
      0xc25a3adc10b5749c3c7471d82ff5f9988abbefe2a2ff97a388d7edffbfffffd3,
      0x8ac4ff97a00cf3f839cc599c2008822008822008822008b7cb0f22cc3fa00028].flatMap (beBytes 32)
    ++ [0x00, 0x00]

def sampleArchives : Archives where
  entries archive :=
    if archive = sampleTarball then sampleEntries.map .ok
    else [.error "invalid gzip header"]
  unpackIn := tarUnpackIn

def sampleTree : FileTree :=
  ((do
    Fs.createDirAll (resolve "/images/tmp/a")
    Fs.create (resolve "/images/tmp/a/image.tar.gz") (.file sampleTarball) : Fs Unit)
    FileTree.empty).2

def sampleUnpacked : FileTree :=
  (extractEntries sampleArchives (resolve "/images/tmp/a/extracted") 0
    (sampleEntries.map .ok)
    (Fs.createDirAll (resolve "/images/tmp/a/extracted") sampleTree).2).2

def samplePruned : FileTree :=
  (pruneUnlistedImageFiles "/images/tmp/a/extracted" sampleManifest sampleUnpacked).2

lemma sampleManifest_wellFormed : Sha256sum.WellFormed sampleManifest where
  nodup := by decide
  valid := by
    simp only [sampleManifest, List.forall_mem_cons, List.not_mem_nil, false_imp_iff,
      implies_true, and_true]
    decide +kernel
  hash_length := by
    simp only [sampleManifest, List.forall_mem_cons, List.not_mem_nil, false_imp_iff,
      implies_true, sha256_length, and_self]

lemma extractImageArchive_sample :
    Runs (extractImageArchive sampleArchives (resolve "/images/tmp/a/image.tar.gz")
      (resolve "/images/tmp/a/extracted"))
      (Fs.createDirAll (resolve "/images/tmp/a/extracted") sampleTree).2 ()
      sampleUnpacked := by
  have hentries : sampleArchives.entries sampleTarball = sampleEntries.map .ok := by
    simp only [sampleArchives, if_true]
  unfold extractImageArchive
  simp only [runs_bind, runs_context, Fs.runs_openFile, Fs.runs_readFile]
  refine ⟨(), _, ⟨by decide +kernel, rfl⟩, sampleTarball, _, ⟨rfl, rfl⟩, ?_⟩
  rw [hentries]
  exact runs_of_isOk (by decide +kernel)

lemma checkManifestEntry_sample {dir name : String} {data : Bytes}
    (hnode : t.node (resolve (joinPath dir name)) = some (.file data)) :
    Runs (checkManifestEntry dir ⟨sha256 data, name⟩) t () t := by
  have hsome : t.node (resolve (joinPath dir name)) ≠ none := by
    rw [hnode]
    exact Option.some_ne_none _
  unfold checkManifestEntry
  simp only [runs_bind, runs_context, Fs.runs_openFile, Fs.runs_readFile, runs_lift,
    ensure_eq_ok]
  exact ⟨(), t, ⟨hsome, rfl⟩, data, t, ⟨hnode, rfl⟩, rfl, rfl⟩

lemma verifyImageManifest_sample :
    Runs (verifyImageManifest "/images/tmp/a/extracted" sampleDoc) sampleUnpacked
      sampleManifest sampleUnpacked := by
  unfold verifyImageManifest
  simp only [runs_bind, runs_lift, runs_pure]
  refine ⟨sampleManifest, sampleUnpacked,
    ⟨Sha256sum.parse_render (List.cons_ne_nil _ _) sampleManifest_wellFormed, rfl⟩, (),
    sampleUnpacked, ?_, rfl, rfl⟩
  simp only [sampleManifest, each, runs_bind, runs_pure, true_and]
  exact ⟨(), _, checkManifestEntry_sample rfl, (), _, checkManifestEntry_sample rfl, (), _,
    checkManifestEntry_sample rfl, (), _, checkManifestEntry_sample rfl, rfl⟩

lemma verifyExtractedImage_sample :
    Runs (verifyExtractedImage sampleParseInfo "/images/tmp/a/extracted" sampleHash)
      sampleUnpacked () samplePruned := by
  have hprune : Runs (pruneUnlistedImageFiles "/images/tmp/a/extracted" sampleManifest)
      sampleUnpacked () samplePruned := runs_of_isOk (by decide +kernel)
  have hcheck : Runs (checkMeasuredFilesAreListed sampleParseInfo "/images/tmp/a/extracted"
      sampleManifest) samplePruned () samplePruned := by
    unfold checkMeasuredFilesAreListed
    simp only [runs_bind, runs_lift, runs_context, runs_readToString, ensure_eq_ok,
      context_eq_ok]
    refine ⟨(), _, ⟨by decide +kernel, rfl⟩, sampleInfoJson, _,
      ⟨utf8 sampleInfoJson, rfl, fromUtf8_utf8 _, rfl⟩, _, _, ⟨if_pos rfl, rfl⟩, ?_, rfl⟩
    decide +kernel
  unfold verifyExtractedImage
  simp only [runs_bind, runs_lift, runs_context, runs_readToString, ensure_eq_ok]
  exact ⟨sampleDoc, _, ⟨utf8 sampleDoc, rfl, fromUtf8_utf8 _, rfl⟩, (), _, ⟨rfl, rfl⟩,
    sampleManifest, _, verifyImageManifest_sample, (), _, hprune, hcheck⟩

/-- The sample is installed, and so it is bound to its hash. -/
theorem sample_install_bound :
    ∃ t' c, Runs (installImage sampleArchives sampleParseInfo "/images/tmp/a" sampleHash
        "/images/b") sampleTree () t'
      ∧ Image sampleParseInfo t' (resolve "/images/b") sampleHash c
      ∧ ∀ p, sampleTree.node p = none → t'.node p ≠ none →
        Path.Under (resolve "/images/b") p := by
  have hrun : ∃ t', Runs (installImage sampleArchives sampleParseInfo "/images/tmp/a"
      sampleHash "/images/b") sampleTree () t' := by
    unfold installImage
    simp only [runs_bind, runs_context, runs_lift, ofOption_eq_ok]
    exact ⟨_, (), _, runs_of_isOk (by decide +kernel), (), _, extractImageArchive_sample,
      (), _, verifyExtractedImage_sample, (), _, runs_of_isOk (by decide +kernel), _, _,
      ⟨rfl, rfl⟩, (), _, runs_of_isOk (by decide +kernel), runs_of_isOk (by decide +kernel)⟩
  obtain ⟨t', hrun⟩ := hrun
  obtain ⟨c, himage, hnew, -⟩ :=
    install_binds_image (A := sampleArchives) keeps_tarUnpackIn (by decide +kernel) hrun
  exact ⟨t', c, hrun, himage, hnew⟩

end Dstack.Verifier
