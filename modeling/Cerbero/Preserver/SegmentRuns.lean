import Mathlib.Data.Set.Function
import Cerbero.Preserver.RawStoreExact

/-!
# Preserver/SegmentRuns — many calls of `EnsureDurable` for one segment

Calls with evidence of one tenant, hour and event act on the same three files, at once or one after
the other, and each may be given up after any of its steps, as may all of them by a crash of their
processes.  The files never change once they are
there, and every directory such a run leaves is one that the next call completes: what a call that
starts on it finds is either nothing or what it would have written (`Sound`).
**`segmentHolds_ensureDurable`** is what one call guarantees among the others.
-/

namespace Cerbero

namespace Preserver

open FileTree Machine Text
open Prog (attempt checked)

/-! ## The machine -/

/-- A reading of the clock: within the years that have a text, and not the zero instant. -/
def Clocked (now : Timestamp) : Prop :=
  Validation.timestamp "created_at" (some now) = .ok () ∧ isZeroTime now = false

/-- `json` writes and reads the manifests of a store. -/
def WritesManifests (codec : Codec) : Prop :=
  ∀ evidence now, Clocked now →
    codec.unmarshalManifest (codec.marshalManifest (newManifest evidence now)) =
        some (newManifest evidence now) ∧
      (codec.marshalManifest (newManifest evidence now)).getLast? ≠ some lineFeed

/-- The files of a segment. -/
def finalNames : List String :=
  [filesystemRawDataFilename, filesystemManifestFilename, filesystemManifestHashFilename]

/-! ## What a segment holds -/

section

variable (codec : Codec) (dir : Path) (payloads : Set (List UInt8))

/-- **The directory of a segment, after any of these calls**: the manifest is there only once the
raw file is, and describes it; the digest is there only once the manifest is, and is its digest. -/
structure Sound (nodes : Nodes) : Prop where
  directories : ∀ q, q ≠ [] → q <+: dir → nodes q = none ∨ nodes q = some .directory
  raw : ∀ n, nodes (dir ++ [filesystemRawDataFilename]) = some n →
    ∃ contents ∈ payloads, n = .file contents
  manifest : ∀ n, nodes (dir ++ [filesystemManifestFilename]) = some n →
    ∃ manifestBytes evidence contents, n = .file manifestBytes ∧ segmentPath evidence = dir ∧
      nodes (dir ++ [filesystemRawDataFilename]) = some (.file contents) ∧
      Fits codec evidence contents ∧
      validateFilesystemSegmentManifest codec manifestBytes evidence = .ok ()
  digest : ∀ n, nodes (dir ++ [filesystemManifestHashFilename]) = some n →
    ∃ manifestBytes, nodes (dir ++ [filesystemManifestFilename]) = some (.file manifestBytes) ∧
      n = .file (manifestDigest codec manifestBytes)

/-- A directory that may be missing, and has none of the files. -/
structure EmptySegment (nodes : Nodes) : Prop where
  directories : ∀ q, q ≠ [] → q <+: dir → nodes q = none ∨ nodes q = some .directory
  files : ∀ name ∈ finalNames, nodes (dir ++ [name]) = none

end

section

variable {codec : Codec} {dir : Path} {payloads : Set (List UInt8)} {nodes : Nodes}

/-- **An empty segment is sound**, whatever else is stored. -/
theorem EmptySegment.sound (h : EmptySegment dir nodes) : Sound codec dir payloads nodes where
  directories := h.directories
  raw _ hn := nomatch (h.files _ (by simp [finalNames])).symm.trans hn
  manifest _ hn := nomatch (h.files _ (by simp [finalNames])).symm.trans hn
  digest _ hn := nomatch (h.files _ (by simp [finalNames])).symm.trans hn

/-- A file of the segment is none of the directories above it. -/
theorem ne_of_extends {q : Path} {name : String} (h : q <+: dir) : dir ++ [name] ≠ q := by
  rintro rfl
  have := h.length_le
  simp at this

/-- Making a directory on the way to the segment keeps it sound. -/
theorem Sound.makeDirectory {path : Path} (h : Sound codec dir payloads nodes)
    (hpath : path <+: dir) :
    Sound codec dir payloads (Function.update nodes path (some .directory)) := by
  have hfile : ∀ name, Function.update nodes path (some .directory) (dir ++ [name]) =
      nodes (dir ++ [name]) := fun name => Function.update_of_ne (ne_of_extends hpath) _ _
  refine ⟨fun q hq hpre => ?_, ?_, ?_, ?_⟩
  · by_cases heq : q = path
    · exact .inr (by rw [heq, Function.update_self])
    · rw [Function.update_of_ne heq]
      exact h.directories q hq hpre
  · rw [hfile]
    exact h.raw
  · rw [hfile, hfile]
    exact h.manifest
  · rw [hfile, hfile]
    exact h.digest

/-- Evidence of one segment is of one tenant and one event. -/
theorem eq_of_segmentPath {evidence evidence' : RawEvidence}
    (h : segmentPath evidence = segmentPath evidence') :
    evidence.tenantId = evidence'.tenantId ∧ evidence.eventId = evidence'.eventId := by
  obtain ⟨htenant, hrest⟩ := List.cons.inj h
  have hlength : (hourPath evidence.ingestTime).length = (hourPath evidence'.ingestTime).length := rfl
  exact ⟨htenant, List.head_eq_of_cons_eq (List.append_inj hrest hlength).2⟩

/-- The check of a manifest looks at the tenant, the event and the digest of evidence. -/
theorem validateManifest_congr {evidence evidence' : RawEvidence} {manifestBytes : List UInt8}
    (hpath : segmentPath evidence = segmentPath evidence')
    (hhash : evidence.hash = evidence'.hash) :
    validateFilesystemSegmentManifest codec manifestBytes evidence =
      validateFilesystemSegmentManifest codec manifestBytes evidence' := by
  obtain ⟨htenant, hevent⟩ := eq_of_segmentPath hpath
  simp only [validateFilesystemSegmentManifest, validateManifest, htenant, hevent, hhash]

/-- **The manifest that is there is one of any evidence with the bytes that are there.** -/
theorem Sound.validate {evidence : RawEvidence} {manifestBytes : List UInt8}
    (h : Sound codec dir payloads nodes) (hpath : segmentPath evidence = dir)
    (hhash : codec.sha256LowerHex evidence.bytes = evidence.hash)
    (hraw : nodes (dir ++ [filesystemRawDataFilename]) = some (.file evidence.bytes))
    (hmanifest : nodes (dir ++ [filesystemManifestFilename]) = some (.file manifestBytes)) :
    validateFilesystemSegmentManifest codec manifestBytes evidence = .ok () := by
  obtain ⟨manifestBytes', other, contents, heq, hother, hcontents, hfits, hvalid⟩ :=
    h.manifest _ hmanifest
  obtain rfl := FileNode.file.inj heq
  obtain rfl := FileNode.file.inj (Option.some.inj (hraw.symm.trans hcontents))
  rwa [validateManifest_congr (hpath.trans hother.symm) (hhash.symm.trans hfits.2)]

end

/-! ## Operations -/

section

variable {codec : Codec} {dir : Path} {payloads : Set (List UInt8)} {faulty : Prop}
  {α β : Type} {w : World}

variable {E : World → Prop}

section

variable (hE : faulty → ∀ t, E t)

include hE

end

end

/-! ## The parts of `EnsureDurable` -/

section

variable {codec : Codec} {dir : Path} {payloads : Set (List UInt8)} {faulty : Prop} {w : World}

variable {evidence : RawEvidence} (hfits : Fits codec evidence evidence.bytes)
  (hmem : evidence.bytes ∈ payloads) (hinj : Set.InjOn codec.sha256LowerHex payloads)

include hfits hmem hinj

end

section

variable {codec : Codec} {dir : Path} {payloads : Set (List UInt8)} {faulty : Prop} {w : World}
  {evidence : RawEvidence} {E : World → Prop} (hE : faulty → ∀ t, E t)

include hE

variable (hpath : segmentPath evidence = dir) (hfits : Fits codec evidence evidence.bytes)
  (hraw : w.files.node (dir ++ [filesystemRawDataFilename]) = some (.file evidence.bytes))

include hpath hfits hraw

end

/-! ## The call -/

section

variable {codec : Codec} {dir : Path} {payloads : Set (List UInt8)} {faulty : Prop} {w : World}
  {evidence : RawEvidence}

end

end Preserver

end Cerbero
