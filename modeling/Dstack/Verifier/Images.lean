/-
OS images at the verifier, and what it expects of them
(`verifier/src/verification.rs`).

An image comes as an archive from a server the verifier does not trust.
It is unpacked into a temporary directory, bound to the image hash
through `sha256sum.txt`, stripped of everything that list does not name,
and moved into the cache. The archive formats are the `flate2` and `tar`
crates' work and a parameter, and so is the JSON of `metadata.json`.
-/
import Dstack.Mr.Tdx

namespace Dstack.Verifier

open Lib Mr

structure ImagePaths where
  imageDir : String
  fwPath : String
  kernelPath : String
  initrdPath : String
  kernelCmdline : String
  isDev : Bool
  version : String
  kernelHeaderNormalized : Bool

def computeMeasurements (acpi : AcpiBuild) (read : ReadFile) (vmConfig : VmConfig)
    (image : ImagePaths) : Result TdxMeasurements :=
  ((machineFor vmConfig image.fwPath image.kernelPath image.initrdPath
      image.kernelCmdline image.kernelHeaderNormalized
      (vmConfig.ovmfVariant.getD .pre202505)).measure acpi read).context
    "Failed to compute expected MRs"

-- == archives

inductive EntryType where
  | regular
  | directory
  | other (typeflag : UInt8)
  deriving DecidableEq

/-- One entry of a tar archive. Reading its data may fail, and `ustar`
is whether its header has the modern format. -/
structure TarEntry where
  path : Bytes
  entryType : EntryType
  size : Nat
  ustar : Bool
  data : Result Bytes

/-- The archive library: the entries of a compressed archive, up to the
first that cannot be read, and the unpacking of one into a directory,
which says whether the entry stayed in it. -/
structure Archives where
  entries : Bytes → List (Result TarEntry)
  unpackIn : TarEntry → Path → Fs Bool

def SameOutside (dir : Path) (t t' : FileTree) : Prop :=
  ∀ p, ¬ Path.Under dir p → t'.node p = t.node p

def Archives.Confined (A : Archives) : Prop :=
  ∀ entry dir, Stateful.Keeps (SameOutside dir) (A.unpackIn entry dir)

def maxImageSize : Nat := 100 * 1024 * 1024

def displayPath (p : Bytes) : String := (fromUtf8 p).getD "�"

def isConfinedArchivePath (path : Bytes) : Bool :=
  (components path).all fun c =>
    match c with
    | .normal _ => true
    | .curDir => true
    | _ => false

/-- Unpack one entry; `extracted` counts the bytes so far. -/
def extractEntry (A : Archives) (extractedDir : Path) (extracted : Nat)
    (entry : TarEntry) : Fs Nat := do
  .lift (Result.ensure (isConfinedArchivePath entry.path = true)
    ("image archive contains unsafe path " ++ displayPath entry.path))
  .lift (Result.ensure (entry.entryType = .regular ∨ entry.entryType = .directory)
    ("image archive contains unsupported entry " ++ displayPath entry.path))
  let extracted := (extracted + entry.size) % 2 ^ 64
  .lift (Result.ensure (¬ extracted > maxImageSize)
    ("image archive extracts to more than " ++ toString maxImageSize ++ " bytes"))
  let inside ← (A.unpackIn entry extractedDir).context
    "Failed to extract image archive entry"
  .lift (Result.ensure (inside = true) "image archive entry escaped the extraction root")
  pure extracted

def extractEntries (A : Archives) (extractedDir : Path) :
    Nat → List (Result TarEntry) → Fs Unit
  | _, [] => pure ()
  | extracted, entry :: entries => do
      let entry ← .lift (entry.context "Failed to read image archive entry")
      let extracted ← extractEntry A extractedDir extracted entry
      extractEntries A extractedDir extracted entries

def extractImageArchive (A : Archives) (tarballPath extractedDir : Path) : Fs Unit := do
  (Fs.openFile tarballPath).context "Failed to open image archive"
  let archive ← (Fs.readFile tarballPath).context "Failed to read image archive entry"
  extractEntries A extractedDir 0 (A.entries archive)

-- == checking

structure ImageInfo where
  cmdline : String
  kernel : String
  initrd : String
  bios : String
  version : String := ""
  isDev : Bool := false
  kernelHeaderNormalized : Bool := false
  deriving DecidableEq

/-- The JSON decoder of `metadata.json`. -/
abbrev ParseImageInfo := String → Result ImageInfo

def readToString (p : Path) : Fs String := do
  let data ← Fs.readFile p
  .lift (Result.ofOption (fromUtf8 data) "stream did not contain valid UTF-8")

def checkManifestEntry (extractedDir : String) (entry : Sha256sum.Entry) : Fs Unit := do
  let path := resolve (joinPath extractedDir entry.name)
  (Fs.openFile path).context ("image is missing manifest entry " ++ entry.name)
  let data ← (Fs.readFile path).context ("failed to read manifest entry " ++ entry.name)
  .lift (Result.ensure (sha256 data = entry.hash)
    (entry.name ++ " does not match its digest in sha256sum.txt"))

def verifyImageManifest (extractedDir filesDoc : String) : Fs (List Sha256sum.Entry) := do
  let entries ← .lift (Sha256sum.parse (utf8 filesDoc))
  Stateful.each (checkManifestEntry extractedDir) entries
  pure entries

def listed (manifest : List Sha256sum.Entry) (name : Name) : Bool :=
  manifest.any fun entry => utf8 entry.name = name

def sha256sumTxt : Name := utf8 "sha256sum.txt"

def pruneEntry (extractedDir : String) (manifest : List Sha256sum.Entry) (name : Name) :
    Fs Unit := do
  let path := resolve extractedDir ++ [name]
  if name ≠ sha256sumTxt ∧ listed manifest name = false then
    if ← Fs.isDir path then (Fs.removeDirAll path).context "Failed to remove directory"
    else (Fs.removeFile path).context "Failed to remove file"
  else pure ()

def pruneUnlistedImageFiles (extractedDir : String) (manifest : List Sha256sum.Entry) :
    Fs Unit := do
  let files ← (Fs.readDir (resolve extractedDir)).context "Failed to read directory"
  Stateful.each (pruneEntry extractedDir manifest) files

def checkMeasuredFilesAreListed (parseInfo : ParseImageInfo) (extractedDir : String)
    (manifest : List Sha256sum.Entry) : Fs Unit := do
  .lift (Result.ensure (listed manifest (utf8 "metadata.json") = true)
    "sha256sum.txt does not list metadata.json")
  let text ← (readToString (resolve (joinPath extractedDir "metadata.json"))).context
    "failed to read image metadata"
  let info ← .lift ((parseInfo text).context "failed to parse image metadata")
  .lift ([info.bios, info.kernel, info.initrd].forM fun name =>
    Result.ensure (listed manifest (utf8 name) = true)
      ("metadata.json names " ++ name ++ ", which sha256sum.txt does not list"))

def verifyExtractedImage (parseInfo : ParseImageInfo)
    (extractedDir hexOsImageHash : String) : Fs Unit := do
  let filesDoc ← (readToString (resolve (joinPath extractedDir "sha256sum.txt"))).context
    "failed to read sha256sum.txt"
  .lift (Result.ensure (hexEncode (sha256 (utf8 filesDoc)) = hexOsImageHash)
    "os_image_hash does not match sha256(sha256sum.txt)")
  let manifest ← verifyImageManifest extractedDir filesDoc
  pruneUnlistedImageFiles extractedDir manifest
  checkMeasuredFilesAreListed parseInfo extractedDir manifest

-- == installing

def removeDestination (dst : Path) : Fs Unit := do
  if ← Fs.exists? dst then
    (Fs.removeDirAll dst).context "Failed to remove destination directory"
  else pure ()

def installImage (A : Archives) (parseInfo : ParseImageInfo)
    (tmpDir hexOsImageHash dstDir : String) : Fs Unit := do
  let extractedDir := joinPath tmpDir "extracted"
  (Fs.createDirAll (resolve extractedDir)).context "Failed to create extraction directory"
  extractImageArchive A (resolve (joinPath tmpDir "image.tar.gz")) (resolve extractedDir)
  verifyExtractedImage parseInfo extractedDir hexOsImageHash
  removeDestination (resolve dstDir)
  let dstDirParent ← .lift
    (Result.ofOption (parentPath dstDir) "Failed to get parent directory")
  (Fs.createDirAll dstDirParent).context "Failed to create parent directory"
  (Fs.renamePath extractedDir dstDir).context
    "Failed to move extracted files to destination directory"

/-- What a download takes from outside: the archive served for an image
hash, and the name of a new temporary directory. -/
structure Downloads where
  fetch : String → Result Bytes
  tempName : String

def downloadImage (A : Archives) (parseInfo : ParseImageInfo) (D : Downloads)
    (imagesDir hexOsImageHash dstDir : String) : Fs Unit := do
  if ← Fs.exists? (resolve (joinPath dstDir "metadata.json")) then pure ()
  else
    let cacheDir := joinPath imagesDir "tmp"
    (Fs.createDirAll (resolve cacheDir)).context "Failed to create cache directory"
    let tmpDir := joinPath cacheDir D.tempName
    (Fs.create (resolve tmpDir) .dir).context "Failed to create temporary directory"
    Fs.withTempDir (resolve tmpDir) do
      let archive ← .lift ((D.fetch hexOsImageHash).context "Failed to download image")
      (Fs.create (resolve (joinPath tmpDir "image.tar.gz")) (.file archive)).context
        "Failed to download image: Failed to create tarball file"
      installImage A parseInfo tmpDir hexOsImageHash dstDir

def imagesDir (imageCacheDir : String) : String := joinPath imageCacheDir "images"

def downloadMissing (metadataPath : Path) (download : Fs Unit) : Fs Unit := do
  if ← Fs.exists? metadataPath then pure () else download

def ImageInfo.paths (info : ImageInfo) (imageDir : String) : ImagePaths where
  imageDir := imageDir
  fwPath := joinPath imageDir info.bios
  kernelPath := joinPath imageDir info.kernel
  initrdPath := joinPath imageDir info.initrd
  kernelCmdline := measuredKernelCmdline info.cmdline
  isDev := info.isDev
  version := info.version
  kernelHeaderNormalized := info.kernelHeaderNormalized

def ensureImageDownloaded (A : Archives) (parseInfo : ParseImageInfo) (D : Downloads)
    (imageCacheDir : String) (vmConfig : VmConfig) : Fs ImagePaths := do
  let hexOsImageHash := hexEncode vmConfig.osImageHash
  let imageDir := joinPath (imagesDir imageCacheDir) hexOsImageHash
  let metadataPath := resolve (joinPath imageDir "metadata.json")
  downloadMissing metadataPath
    ((downloadImage A parseInfo D (imagesDir imageCacheDir) hexOsImageHash imageDir).context
      ("Failed to download image " ++ hexOsImageHash))
  let text ← (readToString metadataPath).context "Failed to read image metadata"
  let info ← .lift ((parseInfo text).context "Failed to parse image metadata")
  pure (info.paths imageDir)

end Dstack.Verifier
