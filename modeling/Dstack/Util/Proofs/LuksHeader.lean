/-
Whether the header that was validated is the header that is used.

The validator and the reader are two parsers of one image. They look at
the same two copies as long as the first copy verifies; the validator
does not ask whether it does. If it does not, the reader looks for a
second copy at fixed offsets, and finds there what the validator skipped
over as the tail of the first copy's JSON area.
-/
import Dstack.Lib.Sha2
import Dstack.Util.LuksHeader

namespace Dstack.Util

open Lib Lib.Luks2

-- == pins

structure PinnedKeyslot (hdrSize : Nat) (k : LuksKeyslot) : Prop where
  keySize : k.keySize = 64
  encryption : k.area.encryption = "aes-xts-plain64"
  areaKeySize : k.area.keySize = 64
  behindHeaders : 2 * hdrSize ≤ k.area.offset
  beforePayload : k.area.offset + k.area.size ≤ payloadOffset
  kdf : ∃ salt iterations, k.kdf = .pbkdf2 salt "sha256" iterations
  af : k.af = { stripes := 4000, hash := "sha256" }
  priority : k.priority = none

/-- The one segment that a validated header may have. -/
def pinnedSegment : LuksSegment where
  offset := payloadOffset
  size := .dynamic
  ivTweak := 0
  encryption := "aes-xts-plain64"
  sectorSize := 512
  integrity := none
  flags := none

/-- What the validation is for: one key slot, one segment and one digest, all
as required. -/
structure Pinned (c : Copy) : Prop where
  keyslot : ∃ k, c.json.keyslots = [(0, k)] ∧ PinnedKeyslot c.header.hdrSize k
  segment : c.json.segments = [(0, pinnedSegment)]
  digest : ∃ d, c.json.digests = [(0, d)] ∧ d.hash = "sha256" ∧ d.keyslots = [0]
    ∧ d.segments = [0]
  tokens : c.json.tokens = []
  flags : c.json.config.flags = none
  requirements : c.json.config.requirements = none

lemma validateKeyslot_pinned {hdrSize : Nat} {k : LuksKeyslot}
    (h : validateKeyslot hdrSize k = .ok ()) : PinnedKeyslot hdrSize k := by
  obtain ⟨keySize, area, kdf, ⟨stripes, hash⟩, priority⟩ := k
  unfold validateKeyslot at h
  simp only [ok_iff, not_or, Nat.not_lt, Option.isNone_iff_eq_none] at h
  obtain ⟨_, hencryption, _, ⟨hoffset, hend⟩, _, hkey, _, harea, _, hkdf, _, rfl, _, rfl,
    hpriority⟩ := h
  refine ⟨hkey, hencryption, harea, hoffset, ?_, ?_, rfl, hpriority⟩
  · cases hsum : checkedAdd area.offset area.size with
    | none =>
      rw [hsum] at hend
      exact absurd rfl hend
    | some stop =>
      rw [hsum] at hend
      obtain ⟨-, rfl⟩ := checkedAdd_eq_some.mp hsum
      simpa using hend
  · cases kdf with
    | pbkdf2 salt hash iterations =>
      rw [validateKdf, ensure_eq_ok] at hkdf
      exact ⟨salt, iterations, by rw [hkdf]⟩
    | argon2i salt time memory cpus => cases hkdf
    | argon2id salt time memory cpus => cases hkdf

lemma validateSegment_pinned {s : LuksSegment} (h : validateSegment s = .ok ()) :
    s = pinnedSegment := by
  obtain ⟨offset, size, ivTweak, encryption, sectorSize, integrity, flags⟩ := s
  unfold validateSegment at h
  simp only [ok_iff, Option.isNone_iff_eq_none] at h
  obtain ⟨_, rfl, _, rfl, _, rfl, _, rfl, _, rfl, _, rfl, rfl⟩ := h
  rfl

lemma eq_singleton_of_lookup {α : Type} {l : List (Nat × α)} {a : α}
    (hlength : l.length = 1) (hlookup : l.lookup 0 = some a) : l = [(0, a)] := by
  obtain ⟨⟨k, b⟩, rfl⟩ := List.length_eq_one_iff.mp hlength
  by_cases hk : 0 = k
  · subst hk
    cases hlookup
    rfl
  · rw [List.lookup, beq_eq_false_iff_ne.mpr hk] at hlookup
    cases hlookup

lemma validateJson_pinned {header : LuksHeader} {json : LuksJson}
    (h : validateJson header.hdrSize json = .ok ()) : Pinned ⟨header, json⟩ := by
  unfold validateJson validateDigest at h
  simp only [ok_iff, Option.isNone_iff_eq_none, List.isEmpty_iff] at h
  obtain ⟨_, hkeyslots, _, htokens, _, hsegments, _, hdigests, _, hflags, _, hrequirements,
    k, hk, _, hkeyslot, s, hs, _, hsegment, d, hd, _, hhash, _, hdkeyslots, hdsegments⟩ := h
  exact {
    keyslot := ⟨k, eq_singleton_of_lookup hkeyslots hk, validateKeyslot_pinned hkeyslot⟩
    segment := by
      rw [← validateSegment_pinned hsegment]
      exact eq_singleton_of_lookup hsegments hs
    digest := ⟨d, eq_singleton_of_lookup hdigests hd, hhash, hdkeyslots, hdsegments⟩
    tokens := htokens
    flags := hflags
    requirements := hrequirements }

-- == the two parsers

/-- The crate and the program that opens the disk read the same values. -/
structure Luks2Crate.Faithful (crate : Luks2Crate) (R : Reader) : Prop where
  header : ∀ data h, crate.readHeader data = .ok h → h = LuksHeader.decode data
  json : ∀ text j, crate.readJson text = .ok j → R.parse text = some j

lemma readExact_ok {n : Nat} {input data rest : Bytes}
    (h : readExact n input = .ok (data, rest)) :
    n ≤ input.length ∧ data = input.take n ∧ rest = input.drop n := by
  unfold readExact at h
  split at h
  · cases h
  · next hlength =>
      cases h
      exact ⟨Nat.le_of_not_lt hlength, rfl, rfl⟩

variable {initializing : Bool} {hdrInd : Nat}

lemma validateHeader_size {header : LuksHeader}
    (h : validateHeader hdrInd header = .ok initializing) : 4096 ≤ header.hdrSize := by
  unfold validateHeader at h
  simp only [ok_iff] at h
  obtain ⟨_, -, _, -, _, -, _, -, _, -, _, -, _, -, _, ⟨hmin, -⟩, -⟩ := h
  exact hmin

section

variable {crate : Luks2Crate} {R : Reader}

/-- The header at an offset. -/
def headerAt (image : Bytes) (off : Nat) : LuksHeader :=
  LuksHeader.decode ((image.drop off).take headerLength)

lemma validateSingle_copy (hcrate : crate.Faithful R) {off : Nat} {image rest : Bytes}
    (h : validateSingleLuks2Header crate hdrInd (image.drop off)
      = .ok (initializing, rest)) :
    rest = image.drop (off + (headerAt image off).hdrSize)
      ∧ ∀ magic c, R.copyAt magic image off = some c → Pinned c := by
  unfold validateSingleLuks2Header at h
  simp only [ok_iff, Prod.mk.injEq] at h
  obtain ⟨⟨data, input⟩, hread, header, hheader, _, hvalid, ⟨area, input'⟩, harea, json, hjson,
    _, hpins, -, rfl⟩ := h
  dsimp only at *
  obtain ⟨-, hdata, hinput⟩ := readExact_ok hread
  obtain ⟨-, harea, hrest⟩ := readExact_ok harea
  obtain rfl := hcrate.header _ _ hheader
  subst hdata
  subst hinput
  have hfold : LuksHeader.decode (List.take 4096 (List.drop off image)) = headerAt image off :=
    rfl
  rw [hfold] at hvalid harea hrest hpins
  have hsize : 4096 ≤ (headerAt image off).hdrSize := validateHeader_size hvalid
  refine ⟨?_, ?_⟩
  · have hend : off + (4096 + ((headerAt image off).hdrSize - 4096))
        = off + (headerAt image off).hdrSize := by omega
    rw [hrest, List.drop_drop, List.drop_drop, hend]
  · intro magic c hc
    obtain ⟨data, area', hdata, hcheader, hcarea, hcjson⟩ := Reader.copyAt_eq_some hc
    obtain ⟨-, -, hdata⟩ := slice_eq_some.mp hdata
    obtain ⟨-, -, harea'⟩ := slice_eq_some.mp hcarea
    rw [Nat.add_sub_cancel_left] at hdata
    have hheader : c.header = headerAt image off := by rw [hcheader, ← hdata, headerAt]
    have hsame : area' = area := by
      rw [← harea', harea, hheader, List.drop_drop, Nat.add_sub_add_left]
      rfl
    rw [hsame, hcrate.json _ _ hjson] at hcjson
    have hjson : c.json = json := (Option.some.inj hcjson).symm
    have hc : c = ⟨headerAt image off, json⟩ := by
      cases c
      rw [Copy.mk.injEq]
      exact ⟨hheader, hjson⟩
    rw [hc]
    exact validateJson_pinned hpins

lemma validate_copies (hcrate : crate.Faithful R) {image : Bytes}
    (h : validateLuks2Headers crate image = .ok initializing) :
    (∀ magic c, R.copyAt magic image 0 = some c → Pinned c)
      ∧ ∀ magic c, R.copyAt magic image (headerAt image 0).hdrSize = some c → Pinned c := by
  unfold validateLuks2Headers at h
  simp only [bind_eq_ok] at h
  obtain ⟨⟨first, input⟩, hfirst, ⟨second, rest⟩, hsecond, -⟩ := h
  have hstart : image = image.drop 0 := List.drop_zero.symm
  rw [hstart] at hfirst
  have hfirst := validateSingle_copy hcrate hfirst
  rw [hfirst.1, Nat.zero_add] at hsecond
  exact ⟨hfirst.2, (validateSingle_copy hcrate hsecond).2⟩

/-- What a reader selects from a validated image has the pinned
parameters exactly if the first copy is one it can use, or the second
copy it finds instead is the one that was validated or has those
parameters for another reason. -/
theorem validated_selected_iff (hcrate : crate.Faithful R) {image : Bytes}
    {initializing : Bool} (h : validateLuks2Headers crate image = .ok initializing) :
    (∀ c, R.select image = some c → Pinned c)
      ↔ (R.primary image).isSome = true
        ∨ ∀ off c, R.scan image = some (off, c) →
          off = (headerAt image 0).hdrSize ∨ Pinned c := by
  obtain ⟨hfirst, hsecond⟩ := validate_copies hcrate h
  cases hprimary : R.primary image with
  | some first =>
    refine iff_of_true ?_ (.inl rfl)
    intro c hc
    rcases Reader.select_of_primary hprimary hc with rfl | hfound
    · exact hfirst _ _ hprimary
    · -- the first copy's size is the one the validator went on with
      obtain ⟨data, _, hdata, hheader, -⟩ := Reader.copyAt_eq_some hprimary
      obtain ⟨-, -, hdata⟩ := slice_eq_some.mp hdata
      rw [Nat.add_sub_cancel_left] at hdata
      rw [hheader, ← hdata] at hfound
      exact hsecond _ _ (Reader.secondaryAt_eq_some hfound).1
  | none =>
    rw [Reader.select_of_scan hprimary]
    constructor
    · intro hpinned
      right
      intro off c hscan
      exact .inr (hpinned c (by rw [hscan]; rfl))
    · rintro (hnone | hscan) c hc
      · cases hnone
      · obtain ⟨⟨off, c⟩, hfound, rfl⟩ := Option.map_eq_some_iff.mp hc
        rcases hscan off c hfound with rfl | hpinned
        · exact hsecond _ _ (Reader.secondaryAt_eq_some (Reader.scan_eq_some hfound)).1
        · exact hpinned

lemma validateSingle_encode (hcrate : ∀ data, crate.readHeader data
      = .ok (LuksHeader.decode data)) {h : LuksHeader} {area rest : Bytes}
    {json : LuksJson} (hf : h.Fits) (hsize : h.hdrSize = 4096 + area.length)
    (hvalid : validateHeader hdrInd h = .ok initializing)
    (hjson : crate.readJson (areaText area) = .ok json)
    (hpins : validateJson h.hdrSize json = .ok ()) :
    validateSingleLuks2Header crate hdrInd (h.encode ++ (area ++ rest))
      = .ok (initializing, rest) := by
  have hlength : h.encode.length = 4096 := LuksHeader.encode_length hf
  have hread : ∀ {n : Nat} {a b : Bytes}, a.length = n → readExact n (a ++ b) = .ok (a, b) := by
    rintro _ a b rfl
    unfold readExact
    rw [if_neg (by rw [List.length_append]; omega), List.take_left, List.drop_left]
  have hheader : crate.readHeader h.encode = .ok h := by
    rw [hcrate, LuksHeader.decode_encode hf]
  have harea : area.length = h.hdrSize - 4096 := by omega
  unfold validateSingleLuks2Header
  simp only [ok_iff]
  exact ⟨(h.encode, area ++ rest), hread hlength, h, hheader, initializing, hvalid,
    (area, rest), hread harea, json, hjson, (), hpins, rfl⟩

end

-- == samples

lemma constPad_length {s : Bytes} {len : Nat} (h : s.length ≤ len) :
    (constPad s len).length = len := by
  unfold constPad
  rw [List.length_append, zeros_length]
  omega

lemma areaText_constPad {t r : Bytes} {len : Nat} (ht : ∀ b ∈ t, b ≠ 0)
    (hlen : t.length < len) : areaText (constPad t len ++ r) = t := by
  obtain ⟨k, hk⟩ : ∃ k, len - t.length = k + 1 := ⟨len - t.length - 1, by omega⟩
  unfold constPad zeros
  rw [hk, List.replicate_succ, List.append_assoc, List.cons_append]
  exact areaText_append ht

def sampleText (encryption : String) : String :=
  "\x7b\"keyslots\":\x7b\"0\":\x7b\"type\":\"luks2\",\"key_size\":64,\"af\":\x7b"
    ++ "\"type\":\"luks1\",\"stripes\":4000,\"hash\":\"sha256\"\x7d,\"area\":\x7b"
    ++ "\"type\":\"raw\",\"offset\":\"65536\",\"size\":\"258048\","
    ++ "\"encryption\":\"aes-xts-plain64\",\"key_size\":64\x7d,\"kdf\":\x7b"
    ++ "\"type\":\"pbkdf2\",\"hash\":\"sha256\",\"iterations\":1000,"
    ++ "\"salt\":\"AAAA\"\x7d\x7d\x7d,\"tokens\":\x7b\x7d,\"segments\":\x7b"
    ++ "\"0\":\x7b\"type\":\"crypt\",\"offset\":\"16777216\",\"size\":\"dynamic\","
    ++ "\"iv_tweak\":\"0\",\"encryption\":\"" ++ encryption
    ++ "\",\"sector_size\":512\x7d\x7d,\"digests\":\x7b\"0\":\x7b"
    ++ "\"type\":\"pbkdf2\",\"keyslots\":[\"0\"],\"segments\":[\"0\"],"
    ++ "\"hash\":\"sha256\",\"iterations\":1000,\"salt\":\"AAAA\","
    ++ "\"digest\":\"AAAA\"\x7d\x7d,\"config\":\x7b\"json_size\":\"12288\","
    ++ "\"keyslots_size\":\"16711680\"\x7d\x7d"

def sampleJson (encryption : String) : LuksJson where
  keyslots := [(0, {
    keySize := 64
    area := {
      encryption := "aes-xts-plain64", keySize := 64, offset := 65536, size := 258048 }
    kdf := .pbkdf2 "AAAA" "sha256" 1000
    af := { stripes := 4000, hash := "sha256" }
    priority := none })]
  tokens := []
  segments := [(0, { pinnedSegment with encryption })]
  digests := [(0, {
    keyslots := [0], segments := [0], hash := "sha256", digest := "AAAA",
    iterations := 1000, salt := "AAAA" })]
  config := {
    jsonSize := 12288, keyslotsSize := 16711680, flags := none, requirements := none }

@[irreducible] def plainText : String := sampleText "aes-xts-plain64"

@[irreducible] def nullText : String := sampleText "cipher_null-ecb"

def sampleParse (text : Bytes) : Option LuksJson :=
  if text = utf8 plainText then some (sampleJson "aes-xts-plain64")
  else if text = utf8 nullText then some (sampleJson "cipher_null-ecb")
  else none

def sampleCrate : Luks2Crate where
  readHeader := fun data => .ok (LuksHeader.decode data)
  readJson := fun text => Result.ofOption (sampleParse text) "expected value"

def sha256Name : Bytes := constPad (utf8 "sha256") 32

def sampleReader : Reader where
  parse := sampleParse
  hash := fun name => if name = sha256Name then some sha256 else none
  takesSize := fun size => decide (size ∈ secondaryOffsets)

lemma sampleCrate_faithful : sampleCrate.Faithful sampleReader := by
  refine ⟨fun data h hread => ?_, fun text j hread => ?_⟩
  · exact (Except.ok.inj hread).symm
  · exact ofOption_eq_ok.mp hread

def fitsArea (text : Bytes) : Bool := text.all (· != 0) && text.length.blt 0x3000

lemma fitsArea_iff {text : Bytes} :
    fitsArea text = true ↔ (∀ b ∈ text, b ≠ 0) ∧ text.length < 0x3000 := by
  unfold fitsArea
  simp

lemma plainText_fits :
    (∀ b ∈ utf8 plainText, b ≠ 0) ∧ (utf8 plainText).length < 0x3000 :=
  fitsArea_iff.mp (by decide +kernel)

lemma nullText_fits :
    (∀ b ∈ utf8 nullText, b ≠ 0) ∧ (utf8 nullText).length < 0x3000 :=
  fitsArea_iff.mp (by decide +kernel)

lemma nullText_ne : utf8 nullText ≠ utf8 plainText := by
  decide +kernel

lemma sampleParse_plain :
    sampleParse (utf8 plainText) = some (sampleJson "aes-xts-plain64") := by
  simp only [sampleParse, if_true]

lemma sampleParse_null :
    sampleParse (utf8 nullText) = some (sampleJson "cipher_null-ecb") := by
  simp only [sampleParse, nullText_ne, if_false, if_true]

def sampleHeader (magic : Bytes) (hdrSize hdrOffset : Nat) (csum : Bytes) : LuksHeader where
  magic := magic
  version := 2
  hdrSize := hdrSize
  seqid := 1
  label := zeros 48
  csumAlg := sha256Name
  salt := zeros 64
  uuid := zeros 40
  subsystem := zeros 48
  hdrOffset := hdrOffset
  csum := csum

def sampleDigest (magic : Bytes) (hdrSize hdrOffset : Nat) (area : Bytes) : Bytes :=
  sha256 ((sampleHeader magic hdrSize hdrOffset (zeros 64)).encode ++ area)

lemma sampleDigest_length (magic : Bytes) (hdrSize hdrOffset : Nat) (area : Bytes) :
    (sampleDigest magic hdrSize hdrOffset area).length = 32 :=
  sha256_length _

lemma sampleCrate_plain :
    sampleCrate.readJson (utf8 plainText) = .ok (sampleJson "aes-xts-plain64") := by
  simp only [sampleCrate, sampleParse_plain, Result.ofOption]

def goodCsum (digest : Bytes) : Bytes := digest ++ zeros 32

def badCsum (digest : Bytes) : Bytes := digest.map (· + 1) ++ zeros 32

lemma sampleHeader_fits {magic : Bytes} {hdrSize hdrOffset : Nat} {csum : Bytes}
    (hmagic : magic.length = 6) (hsize : hdrSize < 256 ^ 8) (hoff : hdrOffset < 256 ^ 8)
    (hcsum : csum.length = 64) : (sampleHeader magic hdrSize hdrOffset csum).Fits where
  magic := hmagic
  version := by show 2 < 256 ^ 2; decide
  hdrSize := hsize
  seqid := by show 1 < 256 ^ 8; decide
  label := zeros_length 48
  csumAlg := by show sha256Name.length = 32; decide +kernel
  salt := zeros_length 64
  uuid := zeros_length 40
  subsystem := zeros_length 48
  hdrOffset := hoff
  csum := hcsum

variable {digest : Bytes}

lemma goodCsum_length (h : digest.length = 32) :
    (goodCsum digest).length = 64 := by
  unfold goodCsum
  rw [List.length_append, h, zeros_length]

lemma badCsum_length (h : digest.length = 32) :
    (badCsum digest).length = 64 := by
  unfold badCsum
  rw [List.length_append, List.length_map, h, zeros_length]

lemma goodCsum_take (h : digest.length = 32) :
    (goodCsum digest).take 32 = digest :=
  List.take_left' h

lemma badCsum_take (h : digest.length = 32) :
    (badCsum digest).take 32 ≠ digest := by
  have htake : (badCsum digest).take 32 = digest.map (· + 1) :=
    List.take_left' (by rw [List.length_map, h])
  rw [htake]
  intro he
  cases digest with
  | nil => cases h
  | cons b bs =>
    rw [List.map_cons, List.cons.injEq] at he
    revert he
    simp

section

variable {magic image before area after csum : Bytes} {hdrSize off : Nat}

lemma sample_copyAt (himage : image = before ++ ((sampleHeader magic hdrSize off csum).encode
      ++ (area ++ after)))
    (hbefore : before.length = off) (hmagic : magic.length = 6) (hcsum : csum.length = 64)
    (harea : hdrSize = headerLength + area.length) (hsize : hdrSize ∈ secondaryOffsets)
    (hoff : off < 256 ^ 8) :
    sampleReader.copyAt magic image off
      = if csum.take 32 = sampleDigest magic hdrSize off area then
          (sampleParse (areaText area)).map (Copy.mk (sampleHeader magic hdrSize off csum))
        else none := by
  have hbounds : ∀ size ∈ secondaryOffsets, size < 256 ^ 8 := by decide
  have hf := sampleHeader_fits hmagic (hbounds hdrSize hsize) hoff hcsum
  have hhash : sampleReader.hash sha256Name = some sha256 := by
    simp only [sampleReader, if_true]
  have hcopy := Reader.copyAt_encode (R := sampleReader) himage hbefore hf rfl rfl harea
    (decide_eq_true hsize) hhash
  rw [sha256_length] at hcopy
  exact hcopy

lemma sample_validateHeader {hdrOffset : Nat}
    (hmagic : expectedMagic hdrInd = .ok magic) (hoff : hdrOffset = hdrInd * hdrSize)
    (hsize : 4096 ≤ hdrSize ∧ hdrSize ≤ 1024 * 1024 * 16) :
    validateHeader hdrInd (sampleHeader magic hdrSize hdrOffset csum) = .ok false := by
  have hlabel : zeros 48 ≠ constPad (utf8 luksInitializingLabel) 48 := by decide +kernel
  unfold validateHeader
  simp only [ok_iff]
  exact ⟨magic, hmagic, (), rfl, (), rfl, (), .inr rfl, (), rfl, (), rfl, (), hoff, (), hsize,
    decide_eq_false hlabel⟩

lemma sample_validateJson :
    validateJson 0x8000 (sampleJson "aes-xts-plain64") = .ok () := by
  decide +kernel

lemma sample_validated (hmagic : expectedMagic hdrInd = .ok magic)
    (hlength : magic.length = 6) (hoff : off = hdrInd * 0x8000) (hbound : off < 256 ^ 8)
    (hcsum : csum.length = 64) (harea : area.length = 0x7000)
    (htext : areaText area = utf8 plainText) :
    validateSingleLuks2Header sampleCrate hdrInd
        ((sampleHeader magic 0x8000 off csum).encode ++ (area ++ after))
      = .ok (false, after) := by
  refine validateSingle_encode (fun _ => rfl) ?_ ?_ (sample_validateHeader hmagic hoff ?_) ?_
    sample_validateJson
  · exact sampleHeader_fits hlength (by decide) hbound hcsum
  · rw [harea]
    rfl
  · decide
  · rw [htext]
    exact sampleCrate_plain

end

def plainArea : Bytes := constPad (utf8 plainText) 0x7000

def plainFirst : LuksHeader :=
  sampleHeader primaryMagic 0x8000 0 (goodCsum (sampleDigest primaryMagic 0x8000 0 plainArea))

def plainSecond : LuksHeader :=
  sampleHeader secondaryMagic 0x8000 0x8000
    (goodCsum (sampleDigest secondaryMagic 0x8000 0x8000 plainArea))

def plainImage : Bytes :=
  plainFirst.encode ++ (plainArea ++ (plainSecond.encode ++ (plainArea ++ [])))

def hiddenArea : Bytes := constPad (utf8 nullText) 0x3000

def hiddenSecond : LuksHeader :=
  sampleHeader secondaryMagic 0x4000 0x4000
    (goodCsum (sampleDigest secondaryMagic 0x4000 0x4000 hiddenArea))

def coverArea : Bytes :=
  constPad (utf8 plainText) 0x3000 ++ (hiddenSecond.encode ++ hiddenArea)

def spoiledFirst : LuksHeader :=
  sampleHeader primaryMagic 0x8000 0 (badCsum (sampleDigest primaryMagic 0x8000 0 coverArea))

def hiddenImage : Bytes :=
  spoiledFirst.encode ++ (coverArea ++ (plainSecond.encode ++ (plainArea ++ [])))

lemma plainArea_length : plainArea.length = 0x7000 :=
  constPad_length (Nat.le_of_lt (Nat.lt_trans plainText_fits.2 (by decide)))

lemma plainArea_text : areaText plainArea = utf8 plainText := by
  have htext := areaText_constPad (r := []) plainText_fits.1
    (Nat.lt_trans plainText_fits.2 (by decide : 0x3000 < 0x7000))
  rwa [List.append_nil] at htext

lemma hiddenArea_length : hiddenArea.length = 0x3000 :=
  constPad_length (Nat.le_of_lt nullText_fits.2)

lemma hiddenArea_text : areaText hiddenArea = utf8 nullText := by
  have htext := areaText_constPad (r := []) nullText_fits.1 nullText_fits.2
  rwa [List.append_nil] at htext

lemma hiddenSecond_fits : hiddenSecond.Fits :=
  sampleHeader_fits rfl (by decide) (by decide) (goodCsum_length (sha256_length _))

lemma coverArea_length : coverArea.length = 0x7000 := by
  unfold coverArea
  rw [List.length_append, List.length_append, LuksHeader.encode_length hiddenSecond_fits,
    hiddenArea_length, constPad_length (Nat.le_of_lt plainText_fits.2)]
  rfl

lemma coverArea_text : areaText coverArea = utf8 plainText :=
  areaText_constPad plainText_fits.1 plainText_fits.2

lemma plainSecond_validated :
    validateSingleLuks2Header sampleCrate 1 (plainSecond.encode ++ (plainArea ++ []))
      = .ok (false, []) :=
  sample_validated rfl rfl rfl (by decide) (goodCsum_length (sampleDigest_length _ _ _ _))
    plainArea_length plainArea_text

lemma plainImage_validated : validateLuks2Headers sampleCrate plainImage = .ok false := by
  have hfirst : validateSingleLuks2Header sampleCrate 0 plainImage
      = .ok (false, plainSecond.encode ++ (plainArea ++ [])) :=
    sample_validated rfl rfl rfl (by decide) (goodCsum_length (sampleDigest_length _ _ _ _))
      plainArea_length plainArea_text
  unfold validateLuks2Headers
  simp only [ok_iff]
  exact ⟨_, hfirst, _, plainSecond_validated, rfl⟩

lemma hiddenImage_validated : validateLuks2Headers sampleCrate hiddenImage = .ok false := by
  have hfirst : validateSingleLuks2Header sampleCrate 0 hiddenImage
      = .ok (false, plainSecond.encode ++ (plainArea ++ [])) :=
    sample_validated rfl rfl rfl (by decide) (badCsum_length (sampleDigest_length _ _ _ _))
      coverArea_length coverArea_text
  unfold validateLuks2Headers
  simp only [ok_iff]
  exact ⟨_, hfirst, _, plainSecond_validated, rfl⟩

lemma plainImage_primary :
    sampleReader.primary plainImage
      = some ⟨plainFirst, sampleJson "aes-xts-plain64"⟩ := by
  have himage : plainImage = [] ++ (plainFirst.encode ++ (plainArea
      ++ (plainSecond.encode ++ (plainArea ++ [])))) := by
    rw [List.nil_append, plainImage]
  refine (sample_copyAt himage rfl rfl (goodCsum_length (sampleDigest_length _ _ _ _))
    (by rw [plainArea_length]; rfl) (by decide) (by decide)).trans ?_
  rw [if_pos (goodCsum_take (sampleDigest_length _ _ _ _)), plainArea_text, sampleParse_plain]
  rfl

lemma hiddenImage_primary : sampleReader.primary hiddenImage = none := by
  have himage : hiddenImage = [] ++ (spoiledFirst.encode ++ (coverArea
      ++ (plainSecond.encode ++ (plainArea ++ [])))) := by
    rw [List.nil_append, hiddenImage]
  refine (sample_copyAt himage rfl rfl (badCsum_length (sampleDigest_length _ _ _ _))
    (by rw [coverArea_length]; rfl) (by decide) (by decide)).trans ?_
  exact if_neg (badCsum_take (sampleDigest_length _ _ _ _))

lemma hiddenImage_copyAt :
    sampleReader.copyAt secondaryMagic hiddenImage 0x4000
      = some ⟨hiddenSecond, sampleJson "cipher_null-ecb"⟩ := by
  have himage : hiddenImage = (spoiledFirst.encode ++ constPad (utf8 plainText) 0x3000)
      ++ (hiddenSecond.encode ++ (hiddenArea ++ (plainSecond.encode ++ (plainArea ++ [])))) := by
    rw [hiddenImage, coverArea, List.append_assoc, List.append_assoc, List.append_assoc]
  have hbefore : (spoiledFirst.encode ++ constPad (utf8 plainText) 0x3000).length = 0x4000 := by
    have hf : spoiledFirst.Fits :=
      sampleHeader_fits rfl (by decide) (by decide) (badCsum_length (sampleDigest_length _ _ _ _))
    rw [List.length_append, LuksHeader.encode_length hf,
      constPad_length (Nat.le_of_lt plainText_fits.2)]
    rfl
  refine (sample_copyAt himage hbefore rfl (goodCsum_length (sampleDigest_length _ _ _ _))
    (by rw [hiddenArea_length]; rfl) (by decide) (by decide)).trans ?_
  rw [if_pos (goodCsum_take (sampleDigest_length _ _ _ _)), hiddenArea_text, sampleParse_null]
  rfl

lemma hiddenImage_scan :
    sampleReader.scan hiddenImage
      = some (0x4000, ⟨hiddenSecond, sampleJson "cipher_null-ecb"⟩) := by
  have hsize : hiddenSecond.hdrSize = 0x4000 := rfl
  apply Reader.scan_of_first
  unfold Reader.secondaryAt
  rw [hiddenImage_copyAt, Option.filter_some]
  exact if_pos (decide_eq_true hsize)

/-- The good disk is validated, and what is read from it is pinned. -/
theorem plainImage_selected :
    ∃ c, sampleReader.select plainImage = some c ∧ Pinned c := by
  have hpinned := (validated_selected_iff sampleCrate_faithful plainImage_validated).mpr
    (.inl (by rw [plainImage_primary]; rfl))
  obtain ⟨c, hc⟩ := Reader.select_isSome plainImage_primary
  exact ⟨c, hc, hpinned c hc⟩

/-- The other disk is validated too, and what is read from it is a copy
whose segment is not encrypted. -/
theorem hiddenImage_selected :
    validateLuks2Headers sampleCrate hiddenImage = .ok false
      ∧ ∃ c, sampleReader.select hiddenImage = some c
        ∧ c.json.segments = [(0, { pinnedSegment with encryption := "cipher_null-ecb" })]
        ∧ ¬Pinned c := by
  refine ⟨hiddenImage_validated, ⟨hiddenSecond, sampleJson "cipher_null-ecb"⟩, ?_, rfl, ?_⟩
  · rw [Reader.select_of_scan hiddenImage_primary, hiddenImage_scan]
    rfl
  · intro hpinned
    have hsegment := hpinned.segment
    revert hsegment
    decide

end Dstack.Util
