import Cerbero.Preserver.RawStoreSafety
import Cerbero.Preserver.Redelivery

/-!
# Preserver/RawStoreExact — exactly when the Raw Store takes evidence

`EnsureDurable` alone, when nothing is wrong with the disk: it succeeds if and only if the evidence
passes its check and nothing that is visible in the segment is against it
(**`completes_ensureDurable_iff`**).
-/

namespace Cerbero

namespace Preserver

open FileTree Text
open Prog (attempt checked)

variable {α β : Type} {env : Environment} {w : World}

/-! ## Runs that succeed -/

/-- The program succeeds. -/
def Completes (env : Environment) (p : Attempt α) (w : World) : Prop :=
  ∃ a w', (ExceptT.run p).run (World.effect env) w = (.ok a, w')

/-- A program with a result completes. -/
theorem Succeeds.completes {p : Attempt α} {a : α} (h : Succeeds env p w a) :
    Completes env p w := by
  obtain ⟨_, files, hrun, -⟩ := h
  exact ⟨a, _, hrun⟩

/-- A part whose outcome is known is over. -/
theorem Leaves.completes_bind {p : Attempt α} {f : α → Attempt β} {a : α} {nodes : Nodes}
    (h : Leaves env p w a nodes) (hbind : Completes env (p >>= f) w) :
    ∃ files, files.node = nodes ∧ Completes env (f a) { w with files := files } := by
  obtain ⟨files, hrun, hnodes⟩ := h
  obtain ⟨b, w', hb⟩ := hbind
  rw [Prog.run_try, hrun] at hb
  exact ⟨files, hnodes, b, w', hb⟩

/-- The first part of a sequence succeeds too. -/
theorem Completes.first {p : Attempt α} {f : α → Attempt β} (h : Completes env (p >>= f) w) :
    Completes env p w := by
  obtain ⟨b, w', hb⟩ := h
  rw [Prog.run_try] at hb
  match hp : (ExceptT.run p).run (World.effect env) w with
  | (.ok a, w₁) => exact ⟨a, w₁, hp⟩
  | (.error e, w₁) =>
    rw [hp] at hb
    exact nomatch (Prod.mk.inj hb).1

/-- A context changes neither whether a program completes nor where. -/
theorem completes_withContext {context : String} {p : Attempt α} :
    Completes env (withContext context p) w ↔ Completes env p w := by
  have hrun : (ExceptT.run (withContext context p)).run (World.effect env) w =
      ((((ExceptT.run p).run (World.effect env) w).1).mapError (context ++ ·),
        ((ExceptT.run p).run (World.effect env) w).2) := Prog.run_bind _ _ _ _
  constructor
  · rintro ⟨a, w', h⟩
    rw [hrun] at h
    obtain ⟨ha, rfl⟩ := Prod.mk.inj h
    exact ⟨a, _, Prod.ext (mapError_eq_ok.1 ha) rfl⟩
  · rintro ⟨a, w', h⟩
    exact ⟨a, w', by rw [hrun, h]; rfl⟩

/-- A check completes only by passing. -/
theorem completes_checked {x : Fallible α} (h : Completes env (checked x) w) :
    ∃ a, x = .ok a := by
  obtain ⟨a, _, h⟩ := h
  exact ⟨a, (Prod.mk.inj h).1⟩

/-- Behind a check the program goes on with what was checked. -/
theorem completes_checked_bind {x : Fallible α} {f : α → Attempt β}
    (h : Completes env (checked x >>= f) w) : ∃ a, x = .ok a ∧ Completes env (f a) w := by
  obtain ⟨a, ha⟩ := completes_checked h.first
  obtain ⟨b, w', hb⟩ := h
  subst ha
  exact ⟨a, rfl, b, w', hb⟩

/-- A program that completes after a read has found a regular file at the path. -/
theorem completes_readFile_bind {path : Path} {f : List UInt8 → Attempt β}
    (h : Completes env (attempt (perform (.readFile path)) >>= f) w) :
    ∃ contents, w.files.node path = some (.file contents) ∧ Completes env (f contents) w := by
  obtain ⟨contents, _, hread⟩ := h.first
  obtain ⟨disk, hfile⟩ := readFile_eq_ok (Prod.mk.inj hread).1
  have hnode : w.files.node path = some (.file contents) := by
    rw [node, hfile]
    rfl
  obtain ⟨b, w', hb⟩ := h
  refine ⟨contents, hnode, b, w', ?_⟩
  rw [Prog.run_try] at hb
  rw [show (ExceptT.run (attempt (perform (.readFile path)))).run (World.effect env) w =
    (.ok contents, w) from Prod.ext (Prod.mk.inj hread).1 rfl] at hb
  exact hb

/-- A directory is made where none or nothing is. -/
theorem completes_makeDirectory {path : Path}
    (h : Completes env (attempt (perform (.makeDirectory path))) w) :
    w.files.node path = none ∨ w.files.node path = some .directory := by
  obtain ⟨_, _, hmake⟩ := h
  have hok : (makeDirectory w.files path).1 = .ok () := (Prod.mk.inj hmake).1
  unfold makeDirectory at hok
  split at hok
  · rename_i disk hpath
    exact .inr (by rw [node, hpath]; rfl)
  · cases hok
  · rename_i hpath
    exact .inl (by rw [node, hpath]; rfl)

/-! ## Directories -/

/-- **Where the directories of a segment are made, none of them was a file before**: the converse of
the run that makes them. -/
theorem completes_ensureDurableDirectories :
    ∀ {parts : List String} {current : Path} {w : World}, w.files.IsDirectory current →
      Completes env (ensureDurableDirectories current parts) w →
      ∀ q, current <+: q → q ≠ current → q <+: current ++ parts →
        w.files.node q = none ∨ w.files.node q = some .directory
  | [], current, w, _, _, q, hbelow, hne, habove =>
      absurd (List.IsPrefix.eq_of_length_le hbelow (by simpa using habove.length_le)).symm hne
  | part :: parts, current, w, hcurrent, h, q, hbelow, hne, habove => by
      obtain ⟨_, -, h⟩ := completes_checked_bind h
      have hnode := completes_makeDirectory h.first
      have hmake : Leaves env (attempt (perform (.makeDirectory (current ++ [part])))) w ()
          (Function.update w.files.node (current ++ [part]) (some .directory)) :=
        leaves_makeDirectory hnode (by rwa [List.dropLast_concat])
      obtain ⟨files, hfiles, h⟩ := hmake.completes_bind h
      obtain ⟨files', hfiles', h⟩ := (leaves_syncDirectory _).withContext.completes_bind h
      have hnodes : files'.node = Function.update w.files.node (current ++ [part])
          (some .directory) := hfiles'.trans hfiles
      by_cases heq : q = current ++ [part]
      · rwa [heq]
      · have hnext : current ++ [part] <+: q := by
          obtain ⟨rest, rfl⟩ := hbelow
          rw [List.prefix_append_right_inj] at habove
          match rest, habove with
          | [], _ => exact absurd (List.append_nil _) hne
          | other :: rest, habove =>
            obtain ⟨rfl, -⟩ := List.cons_prefix_cons.1 habove
            exact (List.prefix_append_right_inj current).2
              (List.cons_prefix_cons.2 ⟨rfl, List.nil_prefix⟩)
        have hdir : files'.IsDirectory (current ++ [part]) :=
          Or.inr ((congrFun hnodes _).trans (Function.update_self _ _ _))
        have hrest : files'.node q = none ∨ files'.node q = some .directory :=
          completes_ensureDurableDirectories hdir h q hnext heq (by rwa [← List.append_cons])
        rwa [hnodes, Function.update_of_ne heq] at hrest

/-! ## Files -/

section

variable {codec : Codec} {evidence : RawEvidence}

/-- The check of the raw file passes only on a file of the evidence's size and hash. -/
theorem completes_verifyFilesystemRawFile {path : Path}
    (h : Completes env (verifyFilesystemRawFile codec path evidence) w) :
    ∃ contents, w.files.node path = some (.file contents) ∧ Fits codec evidence contents := by
  obtain ⟨contents, hnode, h⟩ := completes_readFile_bind h
  obtain ⟨_, hlength, h⟩ := completes_checked_bind h
  obtain ⟨_, hhash⟩ := completes_checked h
  exact ⟨contents, hnode, by simpa using hlength, by simpa using hhash⟩

/-- **Only a missing raw file or a fitting one lets the call go on**: any other contents are a
conflict, and the file stays as it is. -/
theorem completes_ensureDurableRawFile {dir : Path}
    (h : Completes env (ensureDurableRawFile codec dir (dir ++ [filesystemRawDataFilename])
      evidence) w) :
    w.files.node (dir ++ [filesystemRawDataFilename]) = none ∨
      ∃ contents, w.files.node (dir ++ [filesystemRawDataFilename]) = some (.file contents) ∧
        Fits codec evidence contents := by
  obtain ⟨files, hfiles, h⟩ := (leaves_lstat _).withContext.completes_bind h
  match hnode : w.files.node (dir ++ [filesystemRawDataFilename]), h with
  | none, _ => exact .inl rfl
  | some found, h =>
    rw [Option.isSome_some, if_pos rfl] at h
    obtain ⟨files', hfiles', h⟩ := (leaves_syncDirectory _).withContext.completes_bind h
    obtain ⟨contents, hcontents, hfits⟩ := completes_verifyFilesystemRawFile h
    have hkept : files'.node = w.files.node := hfiles'.trans hfiles
    exact .inr ⟨contents, by rw [← hnode, ← hcontents, ← hkept], hfits⟩

/-! ## The closed segment -/

/-- The bytes that are handed on are a valid manifest: the one that was there, or the one of this
call. -/
theorem completes_ensureFilesystemSegmentManifest {dir : Path} {f : List UInt8 → Attempt β}
    (hdir : w.files.IsDirectory dir)
    (h : Completes env (ensureFilesystemSegmentManifest codec dir
      (dir ++ [filesystemManifestFilename]) evidence >>= f) w) :
    ∃ manifestBytes,
      validateFilesystemSegmentManifest codec manifestBytes evidence = .ok () ∧
      (w.files.node (dir ++ [filesystemManifestFilename]) = some (.file manifestBytes) ∨
        w.files.node (dir ++ [filesystemManifestFilename]) = none ∧
          manifestBytes = manifestFile codec (newManifest evidence env.timeNow)) := by
  have hfirst := h.first
  obtain ⟨files, hfiles, hfirst⟩ := (leaves_lstat _).withContext.completes_bind hfirst
  match hnode : w.files.node (dir ++ [filesystemManifestFilename]), hfirst with
  | some found, hfirst =>
    rw [Option.isSome_some, if_pos rfl] at hfirst
    obtain ⟨manifestBytes, hread, hfirst⟩ := completes_readFile_bind hfirst
    obtain ⟨_, hvalid, -⟩ := completes_checked_bind hfirst
    exact ⟨manifestBytes, hvalid, .inl (by rw [← hnode, ← hread, ← hfiles])⟩
  | none, hfirst =>
    rw [Option.isSome_none] at hfirst
    obtain ⟨files₁, hfiles₁, hfirst⟩ := leaves_timeNow.completes_bind hfirst
    have hkept : files₁.node = w.files.node := hfiles₁.trans hfiles
    have hdir₁ : files₁.IsDirectory dir := hdir.imp_right fun hd => (congrFun hkept _).trans hd
    obtain ⟨files₂, hfiles₂, hfirst⟩ := (leaves_publishImmutableFilesystemArtifact
      filesystemManifestFilename _ hdir₁).withContext.completes_bind hfirst
    obtain ⟨manifestBytes, hread, hfirst⟩ := completes_readFile_bind hfirst
    obtain ⟨_, hvalid, -⟩ := completes_checked_bind hfirst
    rw [hfiles₂, Function.update_self, keepOr, hkept, hnode] at hread
    exact ⟨manifestBytes, hvalid, .inr ⟨rfl, (FileNode.file.inj (Option.some.inj hread)).symm⟩⟩

/-- An artifact with other contents stops the call. -/
theorem completes_ensureExactFilesystemArtifact {dir : Path} {name : String}
    {expected : List UInt8} (hdir : w.files.IsDirectory dir)
    (h : Completes env (ensureExactFilesystemArtifact dir (dir ++ [name]) expected) w) :
    w.files.node (dir ++ [name]) = none ∨
      w.files.node (dir ++ [name]) = some (.file expected) := by
  obtain ⟨files, hfiles, h⟩ :=
    (leaves_publishImmutableFilesystemArtifact name expected hdir).completes_bind h
  obtain ⟨actual, hread, h⟩ := completes_readFile_bind h
  obtain ⟨_, heq⟩ := completes_checked h
  obtain rfl : actual = expected := by simpa using heq
  rw [hfiles, Function.update_self, keepOr] at hread
  cases hnode : w.files.node (dir ++ [name]) with
  | none => exact .inl rfl
  | some found =>
    rw [hnode, Option.getD_some] at hread
    exact .inr hread

/-! ## The store -/

/-- Evidence that passes its check has a path of safe names, and its own size and digest. -/
theorem checks_of_validate (hevidence : validateFilesystemRawEvidence codec evidence = .ok ()) :
    (∀ part ∈ segmentPath evidence,
      validateFilesystemPathComponent "path component" part = .ok ()) ∧
    Fits codec evidence evidence.bytes := by
  simp only [validateFilesystemRawEvidence, check_bind_eq_ok, failIf_eq_ok, wrapCheck_eq_ok,
    bne_eq_false_iff_eq] at hevidence
  obtain ⟨htenant, hid, -, -, hsize, hhash⟩ := hevidence
  exact ⟨fun part hpart => component_of_mem_segmentPath htenant hid hpart, hsize.symm, hhash.symm⟩

/-- **Exactly when `EnsureDurable` succeeds.** -/
theorem completes_ensureDurable_iff :
    Completes env (ensureDurable codec evidence) w ↔
      validateFilesystemRawEvidence codec evidence = .ok () ∧
        SegmentTakes codec evidence env.timeNow w.files.node := by
  constructor
  · intro h
    obtain ⟨_, hevidence, h⟩ := completes_checked_bind h
    obtain ⟨hsafe, hfits⟩ := checks_of_validate hevidence
    have hne : segmentPath evidence ≠ [] := by simp [segmentPath]
    have hdirectories : ∀ q, q ≠ [] → q <+: segmentPath evidence →
        w.files.node q = none ∨ w.files.node q = some .directory := fun q hq hpre =>
      completes_ensureDurableDirectories (Or.inl rfl) (completes_withContext.1 h.first) q
        List.nil_prefix hq hpre
    obtain ⟨files₁, hfiles₁, h⟩ := (leaves_ensureDurableDirectories (Or.inl rfl) hsafe
      hdirectories).withContext.completes_bind h
    have hfile : ∀ name, files₁.node (segmentPath evidence ++ [name]) =
        w.files.node (segmentPath evidence ++ [name]) := fun name => by
      rw [hfiles₁, withDirectories_of_lt (by simp)]
    have hdir : files₁.IsDirectory (segmentPath evidence) :=
      Or.inr ((congrFun hfiles₁ _).trans (withDirectories_self hne))
    have hraw := completes_ensureDurableRawFile h.first
    obtain ⟨files₂, hfiles₂, h⟩ := (leaves_ensureDurableRawFile hdir hfits hraw).completes_bind h
    have hfile' : ∀ name, name ≠ filesystemRawDataFilename →
        files₂.node (segmentPath evidence ++ [name]) =
          w.files.node (segmentPath evidence ++ [name]) := fun name hname => by
      rw [hfiles₂, Function.update_of_ne (by simpa using hname), hfile]
    have hdir' : files₂.IsDirectory (segmentPath evidence) := Or.inr (by
      rw [← FileTree.node, hfiles₂, Function.update_of_ne (by simp)]
      exact hdir.resolve_left hne)
    have hclosed := completes_withContext.1 h.first
    obtain ⟨manifestBytes, hvalid, hmanifest⟩ :=
      completes_ensureFilesystemSegmentManifest hdir' hclosed
    obtain ⟨files₃, hfiles₃, hclosed⟩ :=
      (leaves_ensureFilesystemSegmentManifest hdir' hvalid hmanifest).completes_bind hclosed
    have hdir'' : files₃.IsDirectory (segmentPath evidence) := Or.inr (by
      rw [← FileTree.node, hfiles₃, Function.update_of_ne (by simp)]
      exact hdir'.resolve_left hne)
    have hdigest := completes_ensureExactFilesystemArtifact hdir''
      (completes_withContext.1 hclosed.first)
    have hother : segmentPath evidence ++ [filesystemManifestHashFilename] ≠
        segmentPath evidence ++ [filesystemManifestFilename] := by
      simp [filesystemManifestHashFilename, filesystemManifestFilename]
    rw [show FileTree.node _ _ = files₃.node _ from rfl, hfiles₃, Function.update_of_ne hother,
      show FileTree.node _ _ = files₂.node _ from rfl, hfile' _ (by decide)] at hdigest
    rw [show FileTree.node _ _ = files₂.node _ from rfl, hfile' _ (by decide)] at hmanifest
    rw [show FileTree.node _ _ = files₁.node _ from rfl, hfile] at hraw
    exact ⟨hevidence, hdirectories, hraw, manifestBytes, hvalid, hmanifest, hdigest⟩
  · rintro ⟨hevidence, htakes⟩
    obtain ⟨hsafe, hfits⟩ := checks_of_validate hevidence
    exact (succeeds_ensureDurable hevidence hsafe hfits htakes).completes

end

end Preserver

end Cerbero
