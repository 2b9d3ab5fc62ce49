/-
HMAC (RFC 2104) and HKDF (RFC 5869) over a hash function.

Both are built from nested hashes of concatenations whose first part has
the block's length, so on inputs that do not collide they can be read
back: equal tags of keys of one length come from equal keys and equal
messages (`hmac_inj`), and an output key as long as one digest
determines the input key and the context (`derive_inj`).
-/
import Dstack.Lib.Hash

namespace Dstack.Lib.Hkdf

variable (H : Hasher) (block : Nat)

/-- The key at the length of a block. -/
def keyBlock (key : Bytes) : Bytes :=
  let short := if key.length > block then H.hash key else key
  short ++ zeros (block - short.length)

/-- The key block with a byte added to each of its bytes. -/
def mask (b : UInt8) (key : Bytes) : Bytes :=
  (keyBlock H block key).map (· ^^^ b)

/-- The input of the inner hash. -/
def innerInput (key message : Bytes) : Bytes :=
  mask H block 0x36 key ++ message

/-- The input of the outer hash. -/
def outerInput (key message : Bytes) : Bytes :=
  mask H block 0x5c key ++ H.hash (innerInput H block key message)

/-- The tag of a message under a key. -/
def hmac (key message : Bytes) : Bytes :=
  H.hash (outerInput H block key message)

/-- The inputs hashed for a tag. -/
def hmacInputs (key message : Bytes) : List Bytes :=
  [innerInput H block key message, outerInput H block key message]

-- == HKDF

/-- The pseudorandom key of an input key. -/
def extract (salt inputKey : Bytes) : Bytes := hmac H block salt inputKey

/-- `n` blocks of output, each keyed by the previous one and numbered
from `i`. -/
def expandBlocks (prk info : Bytes) : Nat → Nat → Bytes → Bytes
  | 0, _, _ => []
  | n + 1, i, prev =>
    let t := hmac H block prk (prev ++ info ++ [UInt8.ofNat i])
    t ++ expandBlocks prk info n (i + 1) t

/-- Output of some length from a pseudorandom key. -/
def expand (prk info : Bytes) (len : Nat) : Bytes :=
  (expandBlocks H block prk info ((len + H.size - 1) / H.size) 1 []).take len

/-- Extract, then expand. -/
def derive (salt inputKey info : Bytes) (len : Nat) : Bytes :=
  expand H block (extract H block salt inputKey) info len

/-- The inputs hashed for an output of one block. -/
def deriveInputs (salt inputKey info : Bytes) : List Bytes :=
  hmacInputs H block salt inputKey
    ++ hmacInputs H block (extract H block salt inputKey) (info ++ [1])

-- == lengths

variable {H} {block}

lemma keyBlock_of_le {key : Bytes} (h : key.length ≤ block) :
    keyBlock H block key = key ++ zeros (block - key.length) := by
  unfold keyBlock
  rw [if_neg (by omega)]

lemma mask_length {b : UInt8} {key : Bytes} (h : key.length ≤ block) :
    (mask H block b key).length = block := by
  unfold mask
  rw [keyBlock_of_le h, List.length_map, List.length_append, zeros_length]
  omega

lemma outerInput_length {key message : Bytes} (h : key.length ≤ block) :
    (outerInput H block key message).length = block + H.size := by
  rw [outerInput, List.length_append, mask_length h, H.hash_length]

@[simp] lemma hmac_length (key message : Bytes) :
    (hmac H block key message).length = H.size := by
  simp [hmac]

-- == injectivity

lemma mask_inj {b : UInt8} {k₁ k₂ : Bytes} (hlen : k₁.length = k₂.length)
    (hle : k₁.length ≤ block) (h : mask H block b k₁ = mask H block b k₂) :
    k₁ = k₂ := by
  have hxor : Function.Injective (fun x : UInt8 => x ^^^ b) := by
    intro x y hxy
    have hcancel := congrArg (· ^^^ b) hxy
    simpa [UInt8.xor_assoc] using hcancel
  unfold mask at h
  rw [keyBlock_of_le hle, keyBlock_of_le (hlen ▸ hle)] at h
  exact (List.append_inj (List.map_injective_iff.mpr hxor h) hlen).1

lemma hmac_inj {k₁ k₂ m₁ m₂ : Bytes} (hlen : k₁.length = k₂.length)
    (hle : k₁.length ≤ block)
    (hcf : H.CollisionFreeOn (hmacInputs H block k₁ m₁ ++ hmacInputs H block k₂ m₂))
    (h : hmac H block k₁ m₁ = hmac H block k₂ m₂) : k₁ = k₂ ∧ m₁ = m₂ := by
  have hmask {b : UInt8} : (mask H block b k₁).length = (mask H block b k₂).length := by
    rw [mask_length hle, mask_length (hlen ▸ hle)]
  have houter : outerInput H block k₁ m₁ = outerInput H block k₂ m₂ :=
    hcf _ (by simp [hmacInputs]) _ (by simp [hmacInputs]) h
  obtain ⟨hkey, hdigest⟩ := List.append_inj houter hmask
  have hinner : innerInput H block k₁ m₁ = innerInput H block k₂ m₂ :=
    hcf _ (by simp [hmacInputs]) _ (by simp [hmacInputs]) hdigest
  exact ⟨mask_inj hlen hle hkey, (List.append_inj hinner hmask).2⟩

lemma derive_size (hsize : 0 < H.size) (salt inputKey info : Bytes) :
    derive H block salt inputKey info H.size
      = hmac H block (extract H block salt inputKey) (info ++ [1]) := by
  have hblocks : (H.size + H.size - 1) / H.size = 1 := by
    rw [Nat.div_eq_iff hsize]
    omega
  unfold derive expand
  rw [hblocks]
  simp [expandBlocks, List.take_of_length_le]

lemma derive_inj {salt k₁ k₂ i₁ i₂ : Bytes} (hsize : 0 < H.size)
    (hsalt : salt.length ≤ block) (hblock : H.size ≤ block)
    (hcf : H.CollisionFreeOn
      (deriveInputs H block salt k₁ i₁ ++ deriveInputs H block salt k₂ i₂))
    (h : derive H block salt k₁ i₁ H.size = derive H block salt k₂ i₂ H.size) :
    k₁ = k₂ ∧ i₁ = i₂ := by
  rw [derive_size hsize, derive_size hsize] at h
  have hexpand : hmacInputs H block (extract H block salt k₁) (i₁ ++ [1])
        ++ hmacInputs H block (extract H block salt k₂) (i₂ ++ [1])
      ⊆ deriveInputs H block salt k₁ i₁ ++ deriveInputs H block salt k₂ i₂ := by
    intro a ha
    simp only [deriveInputs, List.mem_append] at ha ⊢
    rcases ha with ha | ha <;> simp [ha]
  have hsalted : hmacInputs H block salt k₁ ++ hmacInputs H block salt k₂
      ⊆ deriveInputs H block salt k₁ i₁ ++ deriveInputs H block salt k₂ i₂ := by
    intro a ha
    simp only [deriveInputs, List.mem_append] at ha ⊢
    rcases ha with ha | ha <;> simp [ha]
  have hprk : (extract H block salt k₁).length = (extract H block salt k₂).length := by
    simp [extract]
  obtain ⟨hextract, hinfo⟩ := hmac_inj hprk (by simpa [extract] using hblock)
    (hcf.mono hexpand) h
  obtain ⟨-, hkey⟩ := hmac_inj rfl hsalt (hcf.mono hsalted) hextract
  exact ⟨hkey, List.append_cancel_right hinfo⟩

end Dstack.Lib.Hkdf
