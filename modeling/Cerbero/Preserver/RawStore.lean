import Cerbero.Lib.Calendar
import Cerbero.Preserver.World

/-!
# Preserver/RawStore — the filesystem Raw Store

`FilesystemRawStore.EnsureDurable`: the directories of the segment, the raw file, the manifest and
its digest, each written once, synced and read back.  Every object of the store is reached by the
path `tenant/year/month/day/hour/event`.

The text of an error is its context.  The paths and the errors of the operating system that the
source formats into it are left out, and so is what `encoding/json` says of a manifest it refuses.
-/

namespace Cerbero

namespace Preserver

open Text Calendar
open Prog (attempt checked)

/-! ## Operations -/

/-- `fmt.Errorf` with the error of a program wrapped in a text. -/
def withContext {α : Type} (context : String) (x : Attempt α) : Attempt α :=
  ExceptT.mk (x.run >>= fun r => pure (r.mapError (context ++ ·)))

/-! ## Paths -/

/-- A number written with at least `width` digits. -/
def padded (width : ℕ) (n : ℤ) : String :=
  let digits := Nat.toDigits 10 n.toNat
  String.ofList (List.replicate (width - digits.length) '0' ++ digits)

/-- The UTC hour of an instant as path components: `2006`, `01`, `02`, `15`. -/
def hourPath (when' : Timestamp) : Path :=
  let (year, month, day) := civilDate (when'.seconds / 86400)
  [padded 4 year, padded 2 month, padded 2 day, padded 2 (when'.seconds % 86400 / 3600)]

/-- The directory of a segment. -/
def segmentPath (evidence : RawEvidence) : Path :=
  evidence.tenantId :: hourPath evidence.ingestTime ++ [evidence.eventId]

def filesystemRawDataFilename : String := "raw.bin"

def filesystemManifestFilename : String := "manifest.json"

def filesystemManifestHashFilename : String := "manifest.sha256"

/-- The path of the raw file of a segment. -/
def rawPath (evidence : RawEvidence) : Path := segmentPath evidence ++ [filesystemRawDataFilename]

/-- A byte `url.URL.String` leaves as it is in a path. -/
def isPathByte (b : UInt8) : Bool :=
  Validation.isHex b || (0x61 ≤ b && b ≤ 0x7a) || (0x41 ≤ b && b ≤ 0x5a) ||
    [0x2d, 0x5f, 0x2e, 0x7e, 0x24, 0x26, 0x2b, 0x2c, 0x2f, 0x3a, 0x3b, 0x3d, 0x40].contains b

/-- An upper-case hexadecimal digit. -/
def upperHexDigit (n : ℕ) : Char := if n < 10 then Char.ofNat (48 + n) else Char.ofNat (55 + n)

/-- Percent-encoding in a path. -/
def escapePath (value : String) : String :=
  String.ofList ((bytes value).flatMap fun b =>
    if isPathByte b then [Char.ofNat b.toNat]
    else ['%', upperHexDigit (b.toNat / 16), upperHexDigit (b.toNat % 16)])

/-- The locator of a path: `raw:///tenant/...`. -/
def storageUri (path : Path) : String := "raw://" ++ escapePath ("/" ++ "/".intercalate path)

/-! ## Evidence -/

/-- `validateFilesystemPathComponent`. -/
def validateFilesystemPathComponent (name value : String) : Fallible Unit := do
  failIf (value == "") ("raw store " ++ name ++ " is required")
  failIf (value == "." || value == ".." || value.toList.any fun c =>
      c == '/' || c == '\\' || c == '\x00')
    ("raw store " ++ name ++ " is not a safe path component")

/-- `time.Time.IsZero`: the first instant of year 1. -/
def isZeroTime (when' : Timestamp) : Bool :=
  when'.seconds == protoTimestampMinSeconds && when'.nanos == 0

section

variable (codec : Codec)

/-- `validateFilesystemRawEvidence`: names that are safe as path components, a time, and bytes of
the size and digest they are said to have. -/
def validateFilesystemRawEvidence (evidence : RawEvidence) : Fallible Unit := do
  validateFilesystemPathComponent "tenant_id" evidence.tenantId
  wrapCheck "" (Validation.uuidV7 "raw_store.event_id" evidence.eventId)
  failIf (isZeroTime evidence.ingestTime) "raw store ingest_time is required"
  failIf (evidence.hashAlgorithm != "sha256") "raw store hash algorithm: expected sha256"
  failIf (evidence.size != evidence.bytes.length)
    "raw store evidence size does not match exact byte length"
  failIf (evidence.hash != codec.sha256LowerHex evidence.bytes)
    "raw store evidence hash does not match exact bytes"

/-! ## Files -/

/-- `ensureDurableDirectories`, from directory `current` down. -/
def ensureDurableDirectories : Path → List String → Attempt Unit
  | _, [] => pure ()
  | current, part :: parts => do
    checked (validateFilesystemPathComponent "path component" part)
    attempt (perform (.makeDirectory (current ++ [part])))
    withContext "sync parent directory: " (attempt (perform (.syncDirectory current)))
    ensureDurableDirectories (current ++ [part]) parts

/-- `verifyFilesystemRawFile`: the file at the path is read back and compared with the evidence by
its size and its digest. -/
def verifyFilesystemRawFile (path : Path) (evidence : RawEvidence) : Attempt Unit := do
  let contents ← attempt (perform (.readFile path))
  checked (failIf (contents.length != evidence.size)
    "raw store evidence conflict: raw object size differs")
  checked (failIf (codec.sha256LowerHex contents != evidence.hash)
    "raw store evidence conflict: raw object hash differs")

/-- `ensureDurableRawFile`: the raw file is linked under its name if the name is free; in both cases
its directory is synced and the file verified. -/
def ensureDurableRawFile (segmentDir finalPath : Path) (evidence : RawEvidence) :
    Attempt Unit := do
  if ← withContext "inspect existing raw object: " (attempt (perform (.lstat finalPath))) then
    withContext "sync existing raw segment directory: "
      (attempt (perform (.syncDirectory segmentDir)))
    verifyFilesystemRawFile codec finalPath evidence
  else
    let _ ← withContext "publish immutable raw object: "
      (attempt (perform (.link finalPath evidence.bytes)))
    withContext "sync raw segment directory: " (attempt (perform (.syncDirectory segmentDir)))
    verifyFilesystemRawFile codec finalPath evidence

/-- `publishImmutableFilesystemArtifact`: an artifact is linked under its name if the name is free,
and the answer says whether it was. -/
def publishImmutableFilesystemArtifact (segmentDir finalPath : Path) (payload : List UInt8) :
    Attempt Bool := do
  if ← withContext "inspect segment artifact: " (attempt (perform (.lstat finalPath))) then
    withContext "sync existing segment artifact directory: "
      (attempt (perform (.syncDirectory segmentDir)))
    return false
  else
    let created ← withContext "publish immutable segment artifact: "
      (attempt (perform (.link finalPath payload)))
    withContext "sync segment artifact directory: "
      (attempt (perform (.syncDirectory segmentDir)))
    return created

/-! ## The closed segment -/

/-- The line feed that ends a manifest and its digest. -/
def lineFeed : UInt8 := 0x0a

/-- The contents of the digest file of a manifest. -/
def manifestDigest (manifestBytes : List UInt8) : List UInt8 :=
  bytes (codec.sha256LowerHex manifestBytes) ++ [lineFeed]

/-- The bytes of a manifest file. -/
def manifestFile (manifest : SegmentManifest) : List UInt8 :=
  codec.marshalManifest manifest ++ [lineFeed]

/-- The manifest of a segment with one event. -/
def newManifest (evidence : RawEvidence) (now : Timestamp) : SegmentManifest where
  manifestVersion := 1
  segmentId := evidence.eventId
  tenantId := evidence.tenantId
  eventCount := 1
  firstEventId := evidence.eventId
  lastEventId := evidence.eventId
  createdAt := now
  previousSegmentHash := none
  contentHash := "sha256:" ++ evidence.hash

/-- The checks of `validateFilesystemSegmentManifest` on a decoded manifest. -/
def validateManifest (manifest : SegmentManifest) (evidence : RawEvidence) : Fallible Unit := do
  failIf (manifest.manifestVersion != 1) "raw store evidence conflict: manifest_version differs"
  failIf (manifest.segmentId != evidence.eventId || manifest.tenantId != evidence.tenantId)
    "raw store evidence conflict: manifest identity differs"
  failIf (manifest.eventCount != 1 || manifest.firstEventId != evidence.eventId ||
      manifest.lastEventId != evidence.eventId)
    "raw store evidence conflict: manifest event range differs"
  failIf manifest.previousSegmentHash.isSome
    "raw store evidence conflict: development manifest unexpectedly claims a previous segment hash"
  failIf (manifest.contentHash != "sha256:" ++ evidence.hash)
    "raw store evidence conflict: manifest content hash differs"
  failIf (isZeroTime manifest.createdAt)
    "raw store evidence conflict: manifest created_at is invalid"

/-- `validateFilesystemSegmentManifest`: the bytes end with one line feed, are exactly what the
writer would write, and describe the evidence. -/
def validateFilesystemSegmentManifest (manifestBytes : List UInt8) (evidence : RawEvidence) :
    Fallible Unit := do
  failIf (manifestBytes.getLast? != some lineFeed)
    "raw store evidence conflict: manifest must end with exactly one LF"
  failIf (manifestBytes.dropLast.getLast? == some lineFeed)
    "raw store evidence conflict: manifest has more than one trailing LF"
  match codec.unmarshalManifest manifestBytes.dropLast with
  | none => .error "raw store evidence conflict: decode raw segment manifest"
  | some manifest =>
    failIf (manifestFile codec manifest != manifestBytes)
      "raw store evidence conflict: raw segment manifest is not in canonical producer form"
    validateManifest manifest evidence

/-- `ensureFilesystemSegmentManifest`: a manifest that is there is validated and used; else one is
written with the current time, unless another call is first. -/
def ensureFilesystemSegmentManifest (segmentDir manifestPath : Path) (evidence : RawEvidence) :
    Attempt (List UInt8) := do
  if ← withContext "inspect raw segment manifest: "
      (attempt (perform (.lstat manifestPath))) then
    let manifestBytes ← attempt (perform (.readFile manifestPath))
    checked (validateFilesystemSegmentManifest codec manifestBytes evidence)
    return manifestBytes
  else
    let now ← ExceptT.lift (perform .timeNow)
    let _ ← withContext "publish raw segment manifest: "
      (publishImmutableFilesystemArtifact segmentDir manifestPath
        (manifestFile codec (newManifest evidence now)))
    let manifestBytes ← attempt (perform (.readFile manifestPath))
    checked (validateFilesystemSegmentManifest codec manifestBytes evidence)
    return manifestBytes

/-- `ensureExactFilesystemArtifact`. -/
def ensureExactFilesystemArtifact (segmentDir finalPath : Path) (expected : List UInt8) :
    Attempt Unit := do
  let _ ← publishImmutableFilesystemArtifact segmentDir finalPath expected
  let actual ← attempt (perform (.readFile finalPath))
  checked (failIf (actual != expected) "raw store evidence conflict: manifest.sha256 differs")

/-- `verifyFilesystemSegmentClosure`: the manifest and its digest are read back once more. -/
def verifyFilesystemSegmentClosure (segmentDir : Path) (evidence : RawEvidence) :
    Attempt Unit := do
  let manifestBytes ← attempt (perform (.readFile (segmentDir ++ [filesystemManifestFilename])))
  checked (validateFilesystemSegmentManifest codec manifestBytes evidence)
  let actual ← attempt (perform (.readFile (segmentDir ++ [filesystemManifestHashFilename])))
  checked (failIf (actual != manifestDigest codec manifestBytes)
    "raw store evidence conflict: manifest hash does not match exact manifest bytes")

/-- `ensureClosedFilesystemSegment`: the manifest, its digest and the check of both, in this order.
-/
def ensureClosedFilesystemSegment (segmentDir : Path) (evidence : RawEvidence) :
    Attempt Unit := do
  let manifestBytes ← ensureFilesystemSegmentManifest codec segmentDir
    (segmentDir ++ [filesystemManifestFilename]) evidence
  withContext "persist manifest hash: " (ensureExactFilesystemArtifact segmentDir
    (segmentDir ++ [filesystemManifestHashFilename]) (manifestDigest codec manifestBytes))
  verifyFilesystemSegmentClosure codec segmentDir evidence
  withContext "sync closed raw segment directory: "
    (attempt (perform (.syncDirectory segmentDir)))

/-! ## The store -/

/-- The object `EnsureDurable` returns. -/
def rawObjectOf (evidence : RawEvidence) : RawObject where
  storageUri := storageUri (rawPath evidence)
  segmentId := evidence.eventId
  offset := 0
  length := evidence.size
  hash := evidence.hash

/-- `EnsureDurable`: validate, make the directories, store the raw file, close the segment, and
return the locator. -/
def ensureDurable (evidence : RawEvidence) : Attempt RawObject := do
  checked (validateFilesystemRawEvidence codec evidence)
  withContext "prepare raw segment directory: "
    (ensureDurableDirectories [] (segmentPath evidence))
  ensureDurableRawFile codec (segmentPath evidence) (rawPath evidence) evidence
  withContext "close raw segment: "
    (ensureClosedFilesystemSegment codec (segmentPath evidence) evidence)
  return rawObjectOf evidence

end

end Preserver

end Cerbero
