import Cerbero.Preserver.Invariant

/-!
# Preserver/RawStoreSafety — the Raw Store under interference

What the parts of `EnsureDurable` guarantee while any number of other calls act on the same files
and any of their operations fails: the directories are durable once they were prepared, the raw file
is durable and verified once it was ensured, and the object returned is the locator of durable bytes
(**`guarantees_ensureDurable`**).
-/

namespace Cerbero

namespace Preserver

open FileTree Machine
open Prog (attempt checked)

variable {codec : Codec} {payloads : Set (List UInt8)} {α β : Type} {w : World}

/-! ## Operations under interference -/

section

variable (codec payloads)

/-- What a program guarantees while other calls act on the same stores. -/
abbrev Guarantees (Q : α → World → Prop) (p : Program α) (w : World) : Prop :=
  Holds World.Outcome (Safe codec payloads) Q p w

end

/-- **The rule of one operation**: it is allowed in every later safe world, what it leaves there
meets the postcondition in every world after, and so does a failure. -/
theorem guarantees_perform {o : Op} {Q : o.Response → World → Prop}
    (hallowed : ∀ t, w ≤ t → Safe codec payloads t → Allowed codec payloads t o)
    (hpost : ∀ env t u, w ≤ t → Safe codec payloads t → (t.effect env o).2 ≤ u →
      Safe codec payloads u → Q (t.effect env o).1 u)
    (hfail : ∀ r u, World.Failed o r → Q r u) : Guarantees codec payloads Q (perform o) w := by
  refine holds_call fun t r t' hwt ht ho => ?_
  obtain ⟨hsafe, hle⟩ := safe_of_outcome ht (hallowed t hwt ht) ho
  refine ⟨hsafe, hle, fun u htu hu => ?_⟩
  obtain ⟨env, heq | ⟨hfailed, -⟩⟩ := ho
  · obtain ⟨rfl, rfl⟩ := Prod.mk.inj heq
    exact hpost env t u hwt ht htu hu
  · exact hfail r u hfailed

/-- The context of an error says nothing about the worlds in which there is none. -/
theorem guarantees_withContext {Q : α → World → Prop} {context : String} {x : Attempt α}
    (h : Guarantees codec payloads (OnOk Q) x.run w) :
    Guarantees codec payloads (OnOk Q) (withContext context x).run w :=
  holds_bind h fun
    | .ok _, _, _, _, hq => hq
    | .error _, _, _, _, _ => fun _ _ _ => trivial

/-- A check does no operation: where it passes, the postcondition has to hold already, and in every
later safe world. -/
theorem guarantees_of_checked {Q : α → World → Prop} : ∀ {x : Fallible α},
    (∀ a, x = .ok a → Always (Safe codec payloads) (Q a) w) →
      Guarantees codec payloads (OnOk Q) (checked x).run w
  | .ok a, h => h a rfl
  | .error _, _ => fun _ _ _ => trivial

/-- After a check it is known that the check has passed. -/
theorem guarantees_checked (x : Fallible α) :
    Guarantees codec payloads (OnOk fun a _ => x = .ok a) (checked x).run w :=
  guarantees_of_checked fun _ h _ _ _ => h

/-- A program that ends has to have its postcondition by itself, now and later. -/
theorem guarantees_return {Q : α → World → Prop} {a : α}
    (h : Always (Safe codec payloads) (Q a) w) :
    Guarantees codec payloads (OnOk Q) (pure a : Attempt α).run w := h

/-! ## Files -/

/-- After `os.Mkdir` and the check of its kind there is a directory, durable or not. -/
theorem makeDirectory_eq_ok {files : FileTree String (List UInt8)} {path : Path}
    (h : (makeDirectory files path).1 = .ok ()) :
    ∃ disk, (makeDirectory files path).2 path = some ⟨.directory, disk⟩ := by
  unfold makeDirectory at h ⊢
  split
  · exact ⟨_, ‹_›⟩
  · simp_all
  · split
    · exact ⟨false, by simp [create]⟩
    · simp_all

/-- Another call may sync the directory in the meantime, so what is known of it afterwards is that
it is there. -/
theorem guarantees_makeDirectory (path : Path) :
    Guarantees codec payloads (OnOk fun _ t => ∃ disk, t.files path = some ⟨.directory, disk⟩)
      (perform (.makeDirectory path)) w := by
  refine guarantees_perform (fun _ _ _ => trivial) (fun env t u _ _ hle _ => ?_) ?_
  · match hr : (t.effect env (.makeDirectory path)).1 with
    | .error _ => trivial
    | .ok () =>
      obtain ⟨disk, hdisk⟩ := makeDirectory_eq_ok hr
      obtain ⟨⟨_, disk'⟩, he, rfl, -⟩ := hle.files _ _ hdisk
      exact ⟨disk', he⟩
  · rintro _ _ ⟨_, rfl⟩
    trivial

/-- What was visible in a directory is on disk once the directory is synced. -/
theorem guarantees_syncDirectory {dir : Path} {name : String} {e : FileEntry (List UInt8)}
    (h : w.files (dir ++ [name]) = some e) :
    Guarantees codec payloads (OnOk fun _ t => t.files (dir ++ [name]) = some ⟨e.node, true⟩)
      (perform (.syncDirectory dir)) w := by
  refine guarantees_perform (fun _ _ _ => trivial) (fun env t u hwt _ hle _ => ?_) ?_
  · obtain ⟨e', he', hnode, -⟩ := hwt.files _ _ h
    exact hnode ▸ entry_mono hle.files (sync_concat he')
  · rintro _ _ ⟨_, rfl⟩
    trivial

/-- **The directories of a segment are durable once they are prepared.** -/
theorem guarantees_ensureDurableDirectories : ∀ {parts : List String} {current : Path} {w : World},
    w.files.DurableDirectory current →
      Guarantees codec payloads (OnOk fun _ t => t.files.DurableDirectory (current ++ parts))
        (ensureDurableDirectories current parts).run w
  | [], current, w, h => guarantees_return fun t hwt _ => by simpa using h.mono hwt.files
  | part :: parts, current, w, h => by
      refine holds_try (guarantees_checked _) fun _ t hwt _ _ => ?_
      refine holds_try (guarantees_makeDirectory _) fun _ t' htt' ht' hdir => ?_
      obtain ⟨disk, hdir⟩ := hdir.now ht'
      refine holds_try (guarantees_withContext (guarantees_syncDirectory hdir))
        fun _ t'' htt'' ht'' hsync => ?_
      have hcurrent := h.mono (le_trans hwt (le_trans htt' htt'')).files
      simpa using guarantees_ensureDurableDirectories (hcurrent.concat (hsync.now ht''))

/-- What `os.Lstat` has found stays: no call of the store removes an entry. -/
theorem guarantees_lstat (path : Path) :
    Guarantees codec payloads (OnOk fun b t => b = true → ∃ e, t.files path = some e)
      (perform (.lstat path)) w := by
  refine guarantees_perform (fun _ _ _ => trivial) (fun env t u _ _ hle _ hsome => ?_) ?_
  · obtain ⟨e, he⟩ := Option.isSome_iff_exists.1 hsome
    obtain ⟨e', he', -⟩ := hle.files _ _ he
    exact ⟨e', he'⟩
  · rintro _ _ ⟨_, rfl⟩
    trivial

/-- Whether the link was created or its name was taken, there is an entry at the path afterwards. -/
theorem link_eq_ok {files : FileTree String (List UInt8)} {path : Path} {contents : List UInt8}
    {created : Bool} (h : (link files path contents).1 = .ok created) :
    ∃ e, (link files path contents).2 path = some e := by
  unfold link at h ⊢
  split
  · exact ⟨_, ‹_›⟩
  · split
    · exact ⟨_, if_pos rfl⟩
    · simp_all

/-- A raw file is linked only with a payload of the run; any other artifact of a segment is free to
have any contents. -/
theorem guarantees_link {path : Path} {contents : List UInt8}
    (hallowed : ∀ dir, path = dir ++ [filesystemRawDataFilename] → contents ∈ payloads) :
    Guarantees codec payloads (OnOk fun _ t => ∃ e, t.files path = some e)
      (perform (.link path contents)) w := by
  refine guarantees_perform (fun _ _ _ => hallowed) (fun env t u _ _ hle _ => ?_) ?_
  · match hr : (t.effect env (.link path contents)).1 with
    | .error _ => trivial
    | .ok created =>
      obtain ⟨e, he⟩ := link_eq_ok hr
      obtain ⟨e', he', -⟩ := hle.files _ _ he
      exact ⟨e', he'⟩
  · rintro _ _ ⟨_, rfl⟩
    trivial

/-- What is read are the contents of a regular file at the path. -/
theorem readFile_eq_ok {files : FileTree String (List UInt8)} {path : Path}
    {contents : List UInt8} (h : readFile files path = .ok contents) :
    ∃ disk, files path = some ⟨.file contents, disk⟩ := by
  unfold readFile at h
  split at h
  · obtain rfl := Except.ok.inj h
    exact ⟨_, ‹_›⟩
  · exact nomatch h
  · exact nomatch h

/-- The contents that were read are still there in every later world, since files are never written
again. -/
theorem guarantees_readFile (path : Path) :
    Guarantees codec payloads
      (OnOk fun contents t => ∃ disk, t.files path = some ⟨.file contents, disk⟩)
      (perform (.readFile path)) w := by
  refine guarantees_perform (fun _ _ _ => trivial) (fun env t u _ _ hle _ => ?_) ?_
  · match hr : (t.effect env (.readFile path)).1 with
    | .error _ => trivial
    | .ok contents =>
      obtain ⟨disk, hdisk⟩ := readFile_eq_ok hr
      obtain ⟨⟨_, disk'⟩, he, rfl, -⟩ := hle.files _ _ hdisk
      exact ⟨disk', he⟩
  · rintro _ _ ⟨_, rfl⟩
    trivial

/-! ## The raw file -/

/-- The raw file of `dir` is durable, holds a delivered payload and fits the evidence. -/
def RawFile (codec : Codec) (payloads : Set (List UInt8)) (dir : Path) (evidence : RawEvidence)
    (w : World) : Prop :=
  ∃ contents, w.files.Durable (dir ++ [filesystemRawDataFilename]) (.file contents) ∧
    contents ∈ payloads ∧ codec.sha256LowerHex contents = evidence.hash ∧
    contents.length = evidence.size

/-- A durable raw file stays, with its contents, in every later world. -/
theorem RawFile.mono {dir : Path} {evidence : RawEvidence} {w' : World} (h : w ≤ w')
    (hw : RawFile codec payloads dir evidence w) : RawFile codec payloads dir evidence w' := by
  obtain ⟨contents, hdurable, hrest⟩ := hw
  exact ⟨contents, hdurable.mono h.files, hrest⟩

/-- **A raw file that passes its check holds a payload of the evidence's size and hash**, and it is
durable because its entry and its directories were synced before. -/
theorem guarantees_verifyFilesystemRawFile {dir : Path} {evidence : RawEvidence}
    {node : FileNode (List UInt8)} (hdir : w.files.DurableDirectory dir)
    (h : w.files (dir ++ [filesystemRawDataFilename]) = some ⟨node, true⟩) :
    Guarantees codec payloads (OnOk fun _ t => RawFile codec payloads dir evidence t)
      (verifyFilesystemRawFile codec (dir ++ [filesystemRawDataFilename]) evidence).run w := by
  refine holds_try (guarantees_readFile _) fun contents t hwt ht hread => ?_
  obtain ⟨disk, hfile⟩ := hread.now ht
  have hentry := entry_mono hwt.files h
  obtain ⟨rfl, rfl⟩ : node = .file contents ∧ disk = true := by
    simpa using (hentry.symm.trans hfile)
  refine holds_try (guarantees_checked _) fun _ t' htt' ht' hlength => ?_
  refine guarantees_of_checked fun _ hhash u hu _ => RawFile.mono (le_trans htt' hu) ?_
  exact ⟨contents, (hdir.mono hwt.files).durable hentry, ht.rawFile _ _ _ hfile,
    by simpa using hhash, by simpa using hlength.now ht'⟩

/-- **The raw file is durable and verified once it was ensured.** -/
theorem guarantees_ensureDurableRawFile {dir : Path} {evidence : RawEvidence}
    (hdir : w.files.DurableDirectory dir) (hbytes : evidence.bytes ∈ payloads) :
    Guarantees codec payloads (OnOk fun _ t => RawFile codec payloads dir evidence t)
      (ensureDurableRawFile codec dir (dir ++ [filesystemRawDataFilename]) evidence).run w := by
  refine holds_try (guarantees_withContext (guarantees_lstat _)) fun found t hwt ht hfound => ?_
  split
  · obtain ⟨e, he⟩ := hfound.now ht ‹_›
    refine holds_try (guarantees_withContext (guarantees_syncDirectory he))
      fun _ t' htt' ht' hsync => ?_
    exact guarantees_verifyFilesystemRawFile (hdir.mono (le_trans hwt htt').files) (hsync.now ht')
  · refine holds_try (guarantees_withContext (guarantees_link fun _ _ => hbytes))
      fun _ t' htt' ht' hlink => ?_
    obtain ⟨e, he⟩ := hlink.now ht'
    refine holds_try (guarantees_withContext (guarantees_syncDirectory he))
      fun _ t'' htt'' ht'' hsync => ?_
    exact guarantees_verifyFilesystemRawFile
      (hdir.mono (le_trans hwt (le_trans htt' htt'')).files) (hsync.now ht'')

/-! ## The closed segment -/

/-- A name other than that of the raw file. -/
theorem rawDataFilename_ne {dir dir' : Path} {name : String} {P : Prop}
    (hname : name ≠ filesystemRawDataFilename)
    (h : dir ++ [name] = dir' ++ [filesystemRawDataFilename]) : P := by
  have := (List.append_inj' h rfl).2
  exact absurd (List.head_eq_of_cons_eq this) hname

/-- The other artifacts of a segment are written without a promise about their contents; all that
counts here is that no step of it leaves the safe worlds. -/
theorem guarantees_publishImmutableFilesystemArtifact {dir : Path} {name : String}
    (hname : name ≠ filesystemRawDataFilename) (payload : List UInt8) :
    Guarantees codec payloads (OnOk fun _ _ => True)
      (publishImmutableFilesystemArtifact dir (dir ++ [name]) payload).run w := by
  refine holds_try (guarantees_withContext (guarantees_lstat _)) fun found t _ ht hfound => ?_
  split
  · obtain ⟨e, he⟩ := hfound.now ht ‹_›
    refine holds_try (guarantees_withContext (guarantees_syncDirectory he)) fun _ _ _ _ _ => ?_
    exact guarantees_return fun _ _ _ => trivial
  · refine holds_try (guarantees_withContext
      (guarantees_link fun _ h => rawDataFilename_ne hname h)) fun _ t' _ ht' hlink => ?_
    obtain ⟨e, he⟩ := hlink.now ht'
    refine holds_try (guarantees_withContext (guarantees_syncDirectory he)) fun _ _ _ _ _ => ?_
    exact guarantees_return fun _ _ _ => trivial

/-- Reading the clock changes nothing and promises nothing. -/
theorem guarantees_timeNow :
    Guarantees codec payloads (fun _ _ => True) (perform .timeNow) w :=
  guarantees_perform (fun _ _ _ => trivial) (fun _ _ _ _ _ _ _ => trivial) fun _ _ _ => trivial

/-- The manifest may be one that another call has written; either way the steps keep the world safe.
-/
theorem guarantees_ensureFilesystemSegmentManifest {dir : Path} (evidence : RawEvidence) :
    Guarantees codec payloads (OnOk fun _ _ => True) (ensureFilesystemSegmentManifest codec dir
      (dir ++ [filesystemManifestFilename]) evidence).run w := by
  refine holds_try (guarantees_withContext (guarantees_lstat _)) fun found t _ _ _ => ?_
  split
  · refine holds_try (guarantees_readFile _) fun _ _ _ _ _ => ?_
    refine holds_try (guarantees_checked _) fun _ _ _ _ _ => ?_
    exact guarantees_return fun _ _ _ => trivial
  · refine holds_try (holds_bind guarantees_timeNow fun _ _ _ _ _ =>
      guarantees_return fun _ _ _ => trivial) fun now _ _ _ _ => ?_
    refine holds_try (guarantees_withContext
      (guarantees_publishImmutableFilesystemArtifact (by decide) _)) fun _ _ _ _ _ => ?_
    refine holds_try (guarantees_readFile _) fun _ _ _ _ _ => ?_
    refine holds_try (guarantees_checked _) fun _ _ _ _ _ => ?_
    exact guarantees_return fun _ _ _ => trivial

/-- An artifact with fixed contents is published or compared, and both keep the world safe. -/
theorem guarantees_ensureExactFilesystemArtifact {dir : Path} {name : String}
    (hname : name ≠ filesystemRawDataFilename) (expected : List UInt8) :
    Guarantees codec payloads (OnOk fun _ _ => True)
      (ensureExactFilesystemArtifact dir (dir ++ [name]) expected).run w := by
  refine holds_try (guarantees_publishImmutableFilesystemArtifact hname _) fun _ _ _ _ _ => ?_
  refine holds_try (guarantees_readFile _) fun _ _ _ _ _ => ?_
  exact guarantees_of_checked fun _ _ _ _ _ => trivial

/-- Verifying a closed segment only reads. -/
theorem guarantees_verifyFilesystemSegmentClosure (dir : Path) (evidence : RawEvidence) :
    Guarantees codec payloads (OnOk fun _ _ => True)
      (verifyFilesystemSegmentClosure codec dir evidence).run w := by
  refine holds_try (guarantees_readFile _) fun _ _ _ _ _ => ?_
  refine holds_try (guarantees_checked _) fun _ _ _ _ _ => ?_
  refine holds_try (guarantees_readFile _) fun _ _ _ _ _ => ?_
  exact guarantees_of_checked fun _ _ _ _ _ => trivial

/-- Closing a segment never touches its raw file, so whatever was durable before is durable after
it. -/
theorem guarantees_ensureClosedFilesystemSegment {dir : Path} (evidence : RawEvidence) :
    Guarantees codec payloads (OnOk fun _ _ => True)
      (ensureClosedFilesystemSegment codec dir evidence).run w := by
  refine holds_try (guarantees_ensureFilesystemSegmentManifest evidence) fun _ _ _ _ _ => ?_
  refine holds_try (guarantees_withContext
    (guarantees_ensureExactFilesystemArtifact (by decide) _)) fun _ _ _ _ _ => ?_
  refine holds_try (guarantees_verifyFilesystemSegmentClosure _ _) fun _ _ _ _ _ => ?_
  refine guarantees_withContext (guarantees_perform (fun _ _ _ => trivial)
    (fun _ _ _ _ _ _ _ => trivial) ?_)
  rintro _ _ ⟨_, rfl⟩
  trivial

/-- **What `EnsureDurable` returns is the locator of durable, verified bytes.** -/
theorem guarantees_ensureDurable {evidence : RawEvidence} (hbytes : evidence.bytes ∈ payloads) :
    Guarantees codec payloads (OnOk fun object t => Stored codec payloads t object)
      (ensureDurable codec evidence).run w := by
  refine holds_try (guarantees_checked _) fun _ t _ _ _ => ?_
  refine holds_try (guarantees_withContext
    (guarantees_ensureDurableDirectories (durableDirectory_nil _))) fun _ t' _ ht' hdirs => ?_
  refine holds_try (guarantees_ensureDurableRawFile (hdirs.now ht') hbytes)
    fun _ t'' _ _ hraw => ?_
  refine holds_try (guarantees_withContext (guarantees_ensureClosedFilesystemSegment evidence))
    fun _ u hu _ _ => ?_
  refine guarantees_return fun v hv hsafe => ?_
  obtain ⟨contents, hdurable, hmem, hhash, hlength⟩ := hraw v (le_trans hu hv) hsafe
  exact ⟨segmentPath evidence, contents, rfl, hdurable, hmem, hhash, hlength⟩

end Preserver

end Cerbero
