import Cerbero.Preserver.RawStore

/-!
# Preserver/RawStoreRun — the Raw Store when nothing is wrong

`EnsureDurable` alone on a file tree that holds nothing against the evidence: the segment may be
new, or left over at any stage of an earlier attempt.  It succeeds, and changes nothing but files
(**`succeeds_ensureDurable`**).
-/

namespace Cerbero

namespace Preserver

open FileTree Text
open Prog (attempt checked)

/-- What is visible in a file tree. -/
abbrev Nodes := Path → Option (FileNode (List UInt8))

variable {α β : Type} {env : Environment} {w : World}

/-! ## Runs that only touch files -/

/-- The program succeeds with `a`, leaves `nodes` visible in the Raw Store, and touches nothing
else. -/
def Leaves (env : Environment) (p : Attempt α) (w : World) (a : α) (nodes : Nodes) : Prop :=
  ∃ files, (ExceptT.run p).run (World.effect env) w = (.ok a, { w with files := files }) ∧
    files.node = nodes

/-- The program succeeds with `a` and touches nothing but files. -/
def Succeeds (env : Environment) (p : Attempt α) (w : World) (a : α) : Prop :=
  ∃ nodes, Leaves env p w a nodes

/-- The rule of sequence: the second program runs in the world the first one leaves, of which the
files are known only by their nodes, because syncs may differ. -/
theorem Leaves.bind {p : Attempt α} {f : α → Attempt β} {a : α} {b : β} {nodes nodes' : Nodes}
    (h : Leaves env p w a nodes)
    (h' : ∀ files, files.node = nodes → Leaves env (f a) { w with files := files } b nodes') :
    Leaves env (p >>= f) w b nodes' := by
  obtain ⟨files, hrun, hnodes⟩ := h
  obtain ⟨files', hrun', hnodes'⟩ := h' files hnodes
  refine ⟨files', ?_, hnodes'⟩
  rw [Prog.run_try, hrun]
  exact hrun'

/-- The same where of the second program only its result is asked for. -/
theorem Leaves.bind_succeeds {p : Attempt α} {f : α → Attempt β} {a : α} {b : β} {nodes : Nodes}
    (h : Leaves env p w a nodes)
    (h' : ∀ files, files.node = nodes → Succeeds env (f a) { w with files := files } b) :
    Succeeds env (p >>= f) w b := by
  obtain ⟨files, hrun, hnodes⟩ := h
  obtain ⟨nodes', files', hrun', hnodes'⟩ := h' files hnodes
  refine ⟨nodes', files', ?_, hnodes'⟩
  rw [Prog.run_try, hrun]
  exact hrun'

/-- A program that ends leaves the files as they are. -/
theorem leaves_return (a : α) : Leaves env (pure a) w a w.files.node := ⟨w.files, rfl, rfl⟩

/-- A check that passes leaves the files as they are and answers what it has checked. -/
theorem leaves_checked {x : Fallible α} {a : α} (h : x = .ok a) :
    Leaves env (checked x) w a w.files.node :=
  h ▸ ⟨w.files, rfl, rfl⟩

/-- The check of a condition that does not hold is passed. -/
theorem leaves_failIf {bad : Bool} {text : String} (h : bad = false) :
    Leaves env (checked (failIf bad text)) w () w.files.node :=
  leaves_checked (failIf_eq_ok.2 h)

/-- A context is added to errors only. -/
theorem Leaves.withContext {context : String} {p : Attempt α} {a : α} {nodes : Nodes}
    (h : Leaves env p w a nodes) : Leaves env (withContext context p) w a nodes := by
  obtain ⟨files, hrun, hnodes⟩ := h
  refine ⟨files, ?_, hnodes⟩
  refine (Prog.run_bind _ _ _ _).trans ?_
  rw [hrun]
  rfl

/-! ## Operations -/

/-- `os.Mkdir` inside a directory succeeds if the name is free or a directory already, and leaves a
directory there. -/
theorem leaves_makeDirectory {path : Path}
    (hnode : w.files.node path = none ∨ w.files.node path = some .directory)
    (hparent : w.files.IsDirectory path.dropLast) :
    Leaves env (attempt (perform (.makeDirectory path))) w ()
      (Function.update w.files.node path (some .directory)) := by
  obtain h | h := hnode
  · refine ⟨w.files.create path .directory, ?_, node_create _ _ _⟩
    have hnone : w.files path = none := Option.map_eq_none_iff.1 h
    show ((makeDirectory w.files path).1, { w with files := (makeDirectory w.files path).2 }) = _
    simp [makeDirectory, hnone, hparent]
  · obtain ⟨⟨_, disk⟩, he, rfl⟩ := Option.map_eq_some_iff.1 h
    refine ⟨w.files, ?_, (Function.update_eq_self_iff.2 h.symm).symm⟩
    show ((makeDirectory w.files path).1, { w with files := (makeDirectory w.files path).2 }) = _
    simp [makeDirectory, he]

/-- A sync changes which entries are durable and no node. -/
theorem leaves_syncDirectory (path : Path) :
    Leaves env (attempt (perform (.syncDirectory path))) w () w.files.node :=
  ⟨w.files.sync path, rfl, node_sync _ _⟩

/-- `os.Lstat` answers whether there is a node. -/
theorem leaves_lstat (path : Path) :
    Leaves env (attempt (perform (.lstat path))) w (w.files.node path).isSome w.files.node := by
  refine ⟨w.files, ?_, rfl⟩
  show (Except.ok (w.files path).isSome, w) = _
  simp [node]

/-- Linking a file that is not there. -/
theorem leaves_link {path : Path} (contents : List UInt8) (hnode : w.files.node path = none)
    (hparent : w.files.IsDirectory path.dropLast) :
    Leaves env (attempt (perform (.link path contents))) w true
      (Function.update w.files.node path (some (.file contents))) := by
  refine ⟨w.files.create path (.file contents), ?_, node_create _ _ _⟩
  have hnone : w.files path = none := Option.map_eq_none_iff.1 hnode
  show ((link w.files path contents).1, { w with files := (link w.files path contents).2 }) = _
  simp [link, hnone, hparent]

/-- A regular file is read as it is. -/
theorem leaves_readFile {path : Path} {contents : List UInt8}
    (h : w.files.node path = some (.file contents)) :
    Leaves env (attempt (perform (.readFile path))) w contents w.files.node := by
  obtain ⟨⟨_, disk⟩, he, rfl⟩ := Option.map_eq_some_iff.1 h
  refine ⟨w.files, ?_, rfl⟩
  show (readFile w.files path, w) = _
  simp [readFile, he]

/-- The clock of the process is read without an effect on the files. -/
theorem leaves_timeNow :
    Leaves env (ExceptT.lift (perform .timeNow)) w env.timeNow w.files.node :=
  ⟨w.files, rfl, rfl⟩

/-- The clock of the service likewise, which dates the publication. -/
theorem leaves_clockNow :
    Leaves env (ExceptT.lift (perform .clockNow)) w env.clockNow w.files.node :=
  ⟨w.files, rfl, rfl⟩

/-- A new identifier is drawn without an effect on the files. -/
theorem leaves_newId {id : String} (h : env.newId = .ok id) :
    Leaves env (attempt (perform .newId)) w id w.files.node :=
  ⟨w.files, congrArg (·, w) h, rfl⟩

/-! ## Directories -/

/-- The directories `current/part`, `current/part/part'`, … made visible. -/
def withDirectories : Nodes → Path → List String → Nodes
  | nodes, _, [] => nodes
  | nodes, current, part :: parts =>
    withDirectories (Function.update nodes (current ++ [part]) (some .directory))
      (current ++ [part]) parts

/-- Making directories along a path does not touch what lies deeper than the path. -/
theorem withDirectories_of_lt {q : Path} : ∀ {parts : List String} {nodes : Nodes} {current : Path},
    (current ++ parts).length < q.length → withDirectories nodes current parts q = nodes q
  | [], _, _, _ => rfl
  | part :: parts, nodes, current, h => by
      have hne : q ≠ current ++ [part] := by
        rintro rfl
        simp only [List.length_append, List.length_cons, List.length_nil] at h
        omega
      rw [withDirectories, withDirectories_of_lt (by simpa using h), Function.update_of_ne hne]

/-- At the end of the path there is a directory. -/
theorem withDirectories_self : ∀ {parts : List String} {nodes : Nodes} {current : Path},
    parts ≠ [] → withDirectories nodes current parts (current ++ parts) = some .directory
  | [part], nodes, current, _ => by simp [withDirectories]
  | part :: part' :: parts, nodes, current, _ => by
      rw [withDirectories, List.append_cons current part (part' :: parts)]
      exact withDirectories_self (List.cons_ne_nil _ _)

/-- **The directories of a segment**: where each of them is missing or a directory, they are all
made and nothing else changes. -/
theorem leaves_ensureDurableDirectories : ∀ {parts : List String} {current : Path} {w : World},
    w.files.IsDirectory current →
    (∀ part ∈ parts, validateFilesystemPathComponent "path component" part = .ok ()) →
    (∀ q, q ≠ [] → q <+: current ++ parts → w.files.node q = none ∨
      w.files.node q = some .directory) →
    Leaves env (ensureDurableDirectories current parts) w ()
      (withDirectories w.files.node current parts)
  | [], _, _, _, _, _ => leaves_return ()
  | part :: parts, current, w, hcurrent, hsafe, hnodes => by
      refine (leaves_checked (hsafe part (by simp))).bind fun files hfiles => ?_
      have hmake : Leaves env (attempt (perform (.makeDirectory (current ++ [part]))))
          { w with files := files } ()
          (Function.update w.files.node (current ++ [part]) (some .directory)) := by
        rw [← hfiles]
        refine leaves_makeDirectory ?_ ?_
        · rw [hfiles]
          refine hnodes _ (by simp) ?_
          rw [List.append_cons current part parts]
          exact List.prefix_append _ _
        · rw [List.dropLast_concat]
          exact hcurrent.imp_right fun h => (congrFun hfiles _).trans h
      refine hmake.bind fun files' hfiles' => ?_
      refine (leaves_syncDirectory _).withContext.bind fun files'' hfiles'' => ?_
      have hnode : files''.node = Function.update w.files.node (current ++ [part])
          (some .directory) := hfiles''.trans hfiles'
      rw [withDirectories, ← hnode]
      refine leaves_ensureDurableDirectories (Or.inr ?_) (fun p hp => hsafe p (by simp [hp]))
        fun q hq hpre => ?_
      · exact (congrFun hnode _).trans (by simp)
      · rw [hnode]
        by_cases heq : q = current ++ [part]
        · simp [heq]
        · rw [Function.update_of_ne heq]
          exact hnodes q hq (by rwa [List.append_cons])

/-! ## Files -/

/-- The node a write-once file has afterwards. -/
def keepOr (nodes : Nodes) (path : Path) (contents : List UInt8) : FileNode (List UInt8) :=
  (nodes path).getD (.file contents)

/-- An artifact is created if its name is free and kept as it is otherwise; the answer says which of
the two it was. -/
theorem leaves_publishImmutableFilesystemArtifact {dir : Path} (name : String)
    (payload : List UInt8) (hdir : w.files.IsDirectory dir) :
    Leaves env (publishImmutableFilesystemArtifact dir (dir ++ [name]) payload) w
      (w.files.node (dir ++ [name])).isNone
      (Function.update w.files.node (dir ++ [name])
        (some (keepOr w.files.node (dir ++ [name]) payload))) := by
  refine (leaves_lstat _).withContext.bind fun files hfiles => ?_
  match hnode : w.files.node (dir ++ [name]) with
  | some n =>
    simp only [Option.isSome_some, if_true, keepOr, hnode, Option.getD_some, Option.isNone_some]
    rw [Function.update_eq_self_iff.2 hnode.symm, ← hfiles]
    refine (leaves_syncDirectory _).withContext.bind fun files' hfiles' => ?_
    rw [← hfiles']
    exact leaves_return false
  | none =>
    simp only [Option.isSome_none, keepOr, hnode, Option.getD_none, Option.isNone_none]
    rw [← hfiles]
    refine (leaves_link payload (by rw [hfiles, hnode]) ?_).withContext.bind
      fun files' hfiles' => ?_
    · rw [List.dropLast_concat]
      exact hdir.imp_right fun h => (congrFun hfiles _).trans h
    · refine (leaves_syncDirectory _).withContext.bind fun files'' hfiles'' => ?_
      rw [← hfiles', ← hfiles'']
      exact leaves_return true

section

variable {codec : Codec} {evidence : RawEvidence}

/-- A file that fits the evidence. -/
def Fits (codec : Codec) (evidence : RawEvidence) (contents : List UInt8) : Prop :=
  contents.length = evidence.size ∧ codec.sha256LowerHex contents = evidence.hash

/-- A raw file of the right size and hash passes its check. -/
theorem leaves_verifyFilesystemRawFile {path : Path} {contents : List UInt8}
    (hnode : w.files.node path = some (.file contents)) (hfits : Fits codec evidence contents) :
    Leaves env (verifyFilesystemRawFile codec path evidence) w () w.files.node := by
  refine (leaves_readFile hnode).bind fun files hfiles => ?_
  rw [← hfiles]
  refine (leaves_failIf (by simp [hfits.1])).bind fun files' hfiles' => ?_
  rw [← hfiles']
  exact leaves_failIf (by simp [hfits.2])

/-- **The raw file**: it is linked if it is missing, and one that is there passes if it fits the
evidence. In both cases it is there afterwards, with the contents it had or with the exact bytes. -/
theorem leaves_ensureDurableRawFile {dir : Path} (hdir : w.files.IsDirectory dir)
    (hfits : Fits codec evidence evidence.bytes)
    (hnode : w.files.node (dir ++ [filesystemRawDataFilename]) = none ∨
      ∃ contents, w.files.node (dir ++ [filesystemRawDataFilename]) = some (.file contents) ∧
        Fits codec evidence contents) :
    Leaves env (ensureDurableRawFile codec dir (dir ++ [filesystemRawDataFilename]) evidence) w ()
      (Function.update w.files.node (dir ++ [filesystemRawDataFilename])
        (some (keepOr w.files.node (dir ++ [filesystemRawDataFilename]) evidence.bytes))) := by
  refine (leaves_lstat _).withContext.bind fun files hfiles => ?_
  obtain hnone | ⟨contents, hsome, hcontents⟩ := hnode
  · simp only [hnone, Option.isSome_none, keepOr, Option.getD_none]
    rw [← hfiles]
    refine (leaves_link evidence.bytes (by rw [hfiles, hnone]) ?_).withContext.bind
      fun files' hfiles' => ?_
    · rw [List.dropLast_concat]
      exact hdir.imp_right fun h => (congrFun hfiles _).trans h
    · refine (leaves_syncDirectory _).withContext.bind fun files'' hfiles'' => ?_
      rw [← hfiles', ← hfiles'']
      refine leaves_verifyFilesystemRawFile ?_ hfits
      rw [hfiles'', hfiles', Function.update_self]
  · simp only [hsome, Option.isSome_some, if_true, keepOr, Option.getD_some]
    rw [Function.update_eq_self_iff.2 hsome.symm, ← hfiles]
    refine (leaves_syncDirectory _).withContext.bind fun files' hfiles' => ?_
    rw [← hfiles']
    refine leaves_verifyFilesystemRawFile ?_ hcontents
    rw [hfiles', hfiles, hsome]

/-! ## The closed segment -/

/-- A manifest that was just made passes its own check. -/
theorem validate_newManifest {now : Timestamp}
    (hjson : codec.unmarshalManifest (codec.marshalManifest (newManifest evidence now)) =
      some (newManifest evidence now))
    (hlast : (codec.marshalManifest (newManifest evidence now)).getLast? ≠ some lineFeed)
    (hnow : isZeroTime now = false) :
    validateFilesystemSegmentManifest codec (manifestFile codec (newManifest evidence now))
      evidence = .ok () := by
  simp only [validateFilesystemSegmentManifest, manifestFile, List.getLast?_concat,
    List.dropLast_concat, hjson, check_bind_eq_ok, failIf_eq_ok]
  refine ⟨by simp, by simpa using hlast, by simp, ?_⟩
  simp [validateManifest, newManifest, hnow]

/-- **The manifest**: a valid one is taken as it is, a missing one is written with the time of this
call, and the bytes are handed on. -/
theorem leaves_ensureFilesystemSegmentManifest {dir : Path} {manifestBytes : List UInt8}
    (hdir : w.files.IsDirectory dir)
    (hvalid : validateFilesystemSegmentManifest codec manifestBytes evidence = .ok ())
    (hnode : w.files.node (dir ++ [filesystemManifestFilename]) = some (.file manifestBytes) ∨
      w.files.node (dir ++ [filesystemManifestFilename]) = none ∧
        manifestBytes = manifestFile codec (newManifest evidence env.timeNow)) :
    Leaves env (ensureFilesystemSegmentManifest codec dir (dir ++ [filesystemManifestFilename])
      evidence) w manifestBytes (Function.update w.files.node
        (dir ++ [filesystemManifestFilename]) (some (.file manifestBytes))) := by
  refine (leaves_lstat _).withContext.bind fun files hfiles => ?_
  obtain hsome | ⟨hnone, rfl⟩ := hnode
  · simp only [hsome, Option.isSome_some, if_true]
    rw [Function.update_eq_self_iff.2 hsome.symm, ← hfiles]
    refine (leaves_readFile (by rw [hfiles, hsome])).bind fun files' hfiles' => ?_
    rw [← hfiles']
    refine (leaves_checked hvalid).bind fun files'' hfiles'' => ?_
    rw [← hfiles'']
    exact leaves_return _
  · simp only [hnone, Option.isSome_none]
    refine leaves_timeNow.bind fun files' hfiles' => ?_
    have hdir' : files'.IsDirectory dir :=
      hdir.imp_right fun h => (congrFun (hfiles'.trans hfiles) _).trans h
    have hnode' : files'.node = w.files.node := hfiles'.trans hfiles
    refine (leaves_publishImmutableFilesystemArtifact filesystemManifestFilename _
      hdir').withContext.bind fun files'' hfiles'' => ?_
    rw [hnode', keepOr, hnone, Option.getD_none] at hfiles''
    rw [← hfiles'']
    refine (leaves_readFile (by rw [hfiles'', Function.update_self])).bind fun f hf => ?_
    rw [← hf]
    refine (leaves_checked hvalid).bind fun f' hf' => ?_
    rw [← hf']
    exact leaves_return _

/-- **An artifact with fixed contents** passes if it is missing or has these contents already. -/
theorem leaves_ensureExactFilesystemArtifact {dir : Path} {name : String}
    {expected : List UInt8} (hdir : w.files.IsDirectory dir)
    (hnode : w.files.node (dir ++ [name]) = none ∨
      w.files.node (dir ++ [name]) = some (.file expected)) :
    Leaves env (ensureExactFilesystemArtifact dir (dir ++ [name]) expected) w ()
      (Function.update w.files.node (dir ++ [name]) (some (.file expected))) := by
  have hkeep : keepOr w.files.node (dir ++ [name]) expected = .file expected := by
    obtain h | h := hnode <;> simp [keepOr, h]
  refine (leaves_publishImmutableFilesystemArtifact name expected hdir).bind fun files hfiles => ?_
  rw [hkeep] at hfiles
  rw [← hfiles]
  refine (leaves_readFile (by rw [hfiles, Function.update_self])).bind fun files' hfiles' => ?_
  rw [← hfiles']
  exact leaves_failIf (by simp)

/-- The final check reads back a valid manifest and the digest of exactly its bytes. -/
theorem leaves_verifyFilesystemSegmentClosure {dir : Path} {manifestBytes : List UInt8}
    (hvalid : validateFilesystemSegmentManifest codec manifestBytes evidence = .ok ())
    (hmanifest : w.files.node (dir ++ [filesystemManifestFilename]) =
      some (.file manifestBytes))
    (hdigest : w.files.node (dir ++ [filesystemManifestHashFilename]) =
      some (.file (manifestDigest codec manifestBytes))) :
    Leaves env (verifyFilesystemSegmentClosure codec dir evidence) w () w.files.node := by
  refine (leaves_readFile hmanifest).bind fun files hfiles => ?_
  rw [← hfiles]
  refine (leaves_checked hvalid).bind fun files' hfiles' => ?_
  rw [← hfiles']
  refine (leaves_readFile (by rw [hfiles', hfiles, hdigest])).bind fun files'' hfiles'' => ?_
  rw [← hfiles'']
  exact leaves_failIf (by simp)

/-- **The segment is closed** from any state in which its manifest is valid or missing and its
digest is the manifest's or missing. -/
theorem succeeds_ensureClosedFilesystemSegment {dir : Path} {manifestBytes : List UInt8}
    (hdir : w.files.IsDirectory dir)
    (hvalid : validateFilesystemSegmentManifest codec manifestBytes evidence = .ok ())
    (hmanifest : w.files.node (dir ++ [filesystemManifestFilename]) =
        some (.file manifestBytes) ∨
      w.files.node (dir ++ [filesystemManifestFilename]) = none ∧
        manifestBytes = manifestFile codec (newManifest evidence env.timeNow))
    (hdigest : w.files.node (dir ++ [filesystemManifestHashFilename]) = none ∨
      w.files.node (dir ++ [filesystemManifestHashFilename]) =
        some (.file (manifestDigest codec manifestBytes))) :
    Succeeds env (ensureClosedFilesystemSegment codec dir evidence) w () := by
  have hne : dir ++ [filesystemManifestHashFilename] ≠ dir ++ [filesystemManifestFilename] := by
    simp [filesystemManifestHashFilename, filesystemManifestFilename]
  have hdirne : ∀ name, dir ≠ dir ++ [name] := by simp
  refine (leaves_ensureFilesystemSegmentManifest hdir hvalid hmanifest).bind_succeeds
    fun files hfiles => ?_
  have hdir' : files.IsDirectory dir := hdir.imp_right fun h => by
    rw [← FileTree.node, hfiles, Function.update_of_ne (hdirne _)]
    exact h
  have hdigest' : files.node (dir ++ [filesystemManifestHashFilename]) = none ∨
      files.node (dir ++ [filesystemManifestHashFilename]) =
        some (.file (manifestDigest codec manifestBytes)) := by
    rw [hfiles, Function.update_of_ne hne]
    exact hdigest
  refine (leaves_ensureExactFilesystemArtifact hdir' hdigest').withContext.bind_succeeds
    fun files' hfiles' => ?_
  refine (leaves_verifyFilesystemSegmentClosure hvalid ?_ ?_).bind_succeeds fun _ _ => ?_
  · rw [hfiles', Function.update_of_ne hne.symm, hfiles, Function.update_self]
  · rw [hfiles', Function.update_self]
  · exact ⟨_, (leaves_syncDirectory _).withContext⟩

/-! ## The store -/

/-- **A segment nothing is held against**: it is new, or left over from an earlier attempt. -/
structure SegmentReady (codec : Codec) (evidence : RawEvidence) (nodes : Nodes) : Prop where
  directories : ∀ q, q ≠ [] → q <+: segmentPath evidence →
    nodes q = none ∨ nodes q = some .directory
  raw : nodes (rawPath evidence) = none ∨
    ∃ contents, nodes (rawPath evidence) = some (.file contents) ∧ Fits codec evidence contents
  manifest : nodes (segmentPath evidence ++ [filesystemManifestFilename]) = none ∧
      nodes (segmentPath evidence ++ [filesystemManifestHashFilename]) = none ∨
    ∃ manifestBytes, nodes (segmentPath evidence ++ [filesystemManifestFilename]) =
        some (.file manifestBytes) ∧
      validateFilesystemSegmentManifest codec manifestBytes evidence = .ok () ∧
      (nodes (segmentPath evidence ++ [filesystemManifestHashFilename]) = none ∨
        nodes (segmentPath evidence ++ [filesystemManifestHashFilename]) =
          some (.file (manifestDigest codec manifestBytes)))

/-- **A segment that takes the evidence**, at the time a new manifest is made. -/
structure SegmentTakes (codec : Codec) (evidence : RawEvidence) (now : Timestamp)
    (nodes : Nodes) : Prop where
  directories : ∀ q, q ≠ [] → q <+: segmentPath evidence →
    nodes q = none ∨ nodes q = some .directory
  raw : nodes (rawPath evidence) = none ∨
    ∃ contents, nodes (rawPath evidence) = some (.file contents) ∧ Fits codec evidence contents
  manifest : ∃ manifestBytes,
    validateFilesystemSegmentManifest codec manifestBytes evidence = .ok () ∧
      (nodes (segmentPath evidence ++ [filesystemManifestFilename]) =
          some (.file manifestBytes) ∨
        nodes (segmentPath evidence ++ [filesystemManifestFilename]) = none ∧
          manifestBytes = manifestFile codec (newManifest evidence now)) ∧
      (nodes (segmentPath evidence ++ [filesystemManifestHashFilename]) = none ∨
        nodes (segmentPath evidence ++ [filesystemManifestHashFilename]) =
          some (.file (manifestDigest codec manifestBytes)))

/-- A ready segment takes the evidence if a new manifest passes its own check. -/
theorem SegmentReady.takes {nodes : Nodes} {now : Timestamp}
    (h : SegmentReady codec evidence nodes)
    (hnew : validateFilesystemSegmentManifest codec
      (manifestFile codec (newManifest evidence now)) evidence = .ok ()) :
    SegmentTakes codec evidence now nodes := by
  refine ⟨h.directories, h.raw, ?_⟩
  obtain ⟨hmanifest, hdigest⟩ | ⟨manifestBytes, hmanifest, hvalid, hdigest⟩ := h.manifest
  · exact ⟨_, hnew, Or.inr ⟨hmanifest, rfl⟩, Or.inl hdigest⟩
  · exact ⟨manifestBytes, hvalid, Or.inl hmanifest, hdigest⟩

/-- **`EnsureDurable` succeeds** where the evidence passes its check, the components of its path
are safe and the segment takes it. -/
theorem succeeds_ensureDurable
    (hevidence : validateFilesystemRawEvidence codec evidence = .ok ())
    (hsafe : ∀ part ∈ segmentPath evidence,
      validateFilesystemPathComponent "path component" part = .ok ())
    (hfits : Fits codec evidence evidence.bytes)
    (htakes : SegmentTakes codec evidence env.timeNow w.files.node) :
    Succeeds env (ensureDurable codec evidence) w (rawObjectOf evidence) := by
  have hne : segmentPath evidence ≠ [] := by simp [segmentPath]
  refine (leaves_checked hevidence).bind_succeeds fun files₁ h₁ => ?_
  refine (leaves_ensureDurableDirectories (Or.inl rfl) hsafe fun q hq hpre => ?_).withContext
    |>.bind_succeeds fun files₂ h₂ => ?_
  · rw [h₁]
    exact htakes.directories q hq hpre
  have hfile : ∀ name, files₂.node (segmentPath evidence ++ [name]) =
      w.files.node (segmentPath evidence ++ [name]) := fun name => by
    rw [h₂, withDirectories_of_lt (by simp), h₁]
  have hdir : files₂.IsDirectory (segmentPath evidence) :=
    Or.inr ((congrFun h₂ _).trans (withDirectories_self hne))
  refine (leaves_ensureDurableRawFile hdir hfits ?_).bind_succeeds fun files₃ h₃ => ?_
  · rw [hfile]
    exact htakes.raw
  have hfile' : ∀ name, name ≠ filesystemRawDataFilename →
      files₃.node (segmentPath evidence ++ [name]) =
        w.files.node (segmentPath evidence ++ [name]) := fun name hname => by
    rw [h₃, Function.update_of_ne (by simpa using hname), hfile]
  have hdir' : files₃.IsDirectory (segmentPath evidence) := Or.inr (by
    rw [← FileTree.node, h₃, Function.update_of_ne (by simp)]
    exact hdir.resolve_left hne)
  obtain ⟨manifestBytes, hvalid, hmanifest, hdigest⟩ := htakes.manifest
  rw [← hfile' _ (by decide)] at hmanifest hdigest
  obtain ⟨nodes, hclosed⟩ := succeeds_ensureClosedFilesystemSegment
    (w := { w with files := files₃ }) hdir' hvalid hmanifest hdigest
  exact hclosed.withContext.bind_succeeds fun _ _ => ⟨_, leaves_return _⟩

end

end Preserver

end Cerbero
