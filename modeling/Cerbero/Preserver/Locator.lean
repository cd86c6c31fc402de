import Cerbero.Lib.Serial
import Cerbero.Normalizer.RawReader
import Cerbero.Preserver.RawStoreSafety
import Cerbero.Preserver.Redelivery

/-!
# Preserver/Locator — from the store that writes to the reader of another service

The preserver returns a locator made by `url.URL.String`, which percent-encodes; the normalizer
takes it as it stands.  The reader finds the stored bytes of every accepted event of a tenant
exactly if no byte of the tenant's name is encoded: **`locatorResolves_iff`**.
-/

namespace Cerbero

namespace Preserver

open Text Machine FileTree
open Prog (attempt checked)

/-! ## What a program alone leaves -/

/-- Every entry was there before or lies below `top`. -/
def Within (top : String) (start files : FileTree String (List UInt8)) : Prop :=
  ∀ q, (files q).isSome → (start q).isSome ∨ q.head? = some top

/-- A new entry of the operation lies below `top`. -/
def Touches (top : String) : Op → Prop
  | .makeDirectory path => path.head? = some top
  | .link path _ => path.head? = some top
  | _ => True

section

variable {top : String} {start : FileTree String (List UInt8)} {α β : Type} {w w' : World}

/-- A new entry under `top` keeps everything else as it was at the start. -/
theorem Within.create {files : FileTree String (List UInt8)} (h : Within top start files)
    {path : Path} (hpath : path.head? = some top) (node : FileNode (List UInt8)) :
    Within top start (files.create path node) := by
  intro q hq
  unfold FileTree.create at hq
  split at hq
  · rename_i heq
    exact .inr (heq ▸ hpath)
  · exact h q hq

/-- No operation removes or rewrites an entry. -/
theorem files_le_effect (env : Environment) (w : World) : ∀ o : Op,
    w.files ≤ (w.effect env o).2.files
  | .makeDirectory path => by
      show w.files ≤ (makeDirectory w.files path).2
      unfold makeDirectory
      split
      · exact le_rfl
      · exact le_rfl
      · split
        · exact le_create ‹_›
        · exact le_rfl
  | .syncDirectory path => le_sync _ _
  | .lstat _ => le_rfl
  | .link path contents => by
      show w.files ≤ (link w.files path contents).2
      unfold link
      split
      · exact le_rfl
      · split
        · exact le_create ‹_›
        · exact le_rfl
  | .readFile _ => le_rfl
  | .timeNow => le_rfl
  | .clockNow => le_rfl
  | .newId => le_rfl
  | .find _ _ => le_rfl
  | .commitPreservation _ => le_rfl
  | .publishMsg _ _ _ => le_rfl
  | .markPublished _ _ => le_rfl

/-- **An operation that writes under `top` keeps the rest of the tree**; reading and the database do
so anyway. -/
theorem within_effect (env : Environment) (hw : Within top start w.files) : ∀ {o : Op},
    Touches top o → Within top start (w.effect env o).2.files
  | .makeDirectory path, htop => by
      show Within top start (makeDirectory w.files path).2
      unfold makeDirectory
      split
      · exact hw
      · exact hw
      · split
        · exact hw.create htop _
        · exact hw
  | .syncDirectory path, _ => fun q hq => hw q (by simpa [World.effect, FileTree.sync] using hq)
  | .lstat _, _ => hw
  | .link path contents, htop => by
      show Within top start (link w.files path contents).2
      unfold link
      split
      · exact hw
      · split
        · exact hw.create htop _
        · exact hw
  | .readFile _, _ => hw
  | .timeNow, _ => hw
  | .clockNow, _ => hw
  | .newId, _ => hw
  | .find _ _, _ => hw
  | .commitPreservation _, _ => hw
  | .publishMsg _ _ _, _ => hw
  | .markPublished _ _, _ => hw

/-- What an outcome does to the files. -/
theorem files_of_outcome {o : Op} {r : o.Response} (h : World.Outcome o w r w') :
    w'.files = w.files ∨ ∃ env, w'.files = (w.effect env o).2.files := by
  obtain ⟨env, heq | ⟨-, rfl | rfl | ⟨_, _, _, rfl, rfl⟩⟩⟩ := h
  · exact .inr ⟨env, congrArg (fun p => p.2.files) heq⟩
  · exact .inl rfl
  · exact .inr ⟨env, rfl⟩
  · exact .inl rfl

/-- The same of any outcome, a failure included. -/
theorem files_le_of_outcome {o : Op} {r : o.Response} (h : World.Outcome o w r w') :
    w.files ≤ w'.files := by
  obtain h | ⟨env, h⟩ := files_of_outcome h
  · exact h ▸ le_rfl
  · exact h ▸ files_le_effect env w o

variable (top start) in
/-- A program alone, whatever its operations answer. -/
abbrev Alone (Q : α → World → Prop) (p : Program α) (w : World) : Prop :=
  Serial.Safe World.Outcome (fun t => Within top start t.files) (fun _ _ => True) Q p w

/-- The rule of one operation for a call that runs alone: what it finds is what it has left there.
-/
theorem alone_perform {o : Op} {Q : o.Response → World → Prop} (hw : Within top start w.files)
    (htop : Touches top o) (hpost : ∀ env, Q (w.effect env o).1 (w.effect env o).2)
    (hfail : ∀ r t, World.Failed o r → Q r t) : Alone top start Q (perform o) w := by
  refine ⟨hw, trivial, fun r w' ho => ⟨?_, ?_⟩⟩
  · obtain h | ⟨env, h⟩ := files_of_outcome ho
    · exact h ▸ hw
    · exact h ▸ within_effect env hw htop
  · obtain ⟨env, heq | ⟨hfailed, -⟩⟩ := ho
    · obtain ⟨rfl, rfl⟩ := Prod.mk.inj heq
      exact hpost env
    · exact hfail r w' hfailed

/-- Nothing is taken away. -/
theorem alone_grows {Q : α → World → Prop} {base : FileTree String (List UInt8)} :
    ∀ {p : Program α} {w : World}, base ≤ w.files → Alone top start Q p w →
      Alone top start (fun a t => Q a t ∧ base ≤ t.files) p w
  | .pure _, _, hle, h => ⟨h.1, h.2, hle⟩
  | .perform _ _, _, hle, h => ⟨h.1, trivial, fun r t ho =>
      alone_grows (le_trans hle (files_le_of_outcome ho)) (h.2.2 r t ho)⟩

/-- Sequencing; the second part starts with the files of the first one. -/
theorem alone_try {Q : α → World → Prop} {R : β → World → Prop} {p : Attempt α}
    {f : α → Attempt β} (hp : Alone top start (OnOk Q) p.run w)
    (hf : ∀ a t, Within top start t.files → w.files ≤ t.files → Q a t →
      Alone top start (OnOk R) (f a).run t) :
    Alone top start (OnOk R) (p >>= f).run w :=
  Serial.safe_bind (alone_grows le_rfl hp) fun
    | .ok a, t, ht, hq => hf a t ht hq.2 hq.1
    | .error _, _, ht, _ => ⟨ht, trivial⟩

/-- After a check it is known that the check has passed. -/
theorem alone_checked {x : Fallible α} (hw : Within top start w.files) :
    Alone top start (OnOk fun a _ => x = .ok a) (checked x).run w := by
  match x with
  | .ok a => exact ⟨hw, rfl⟩
  | .error _ => exact ⟨hw, trivial⟩

/-- The context of an error says nothing about success. -/
theorem alone_withContext {Q : α → World → Prop} {context : String} {x : Attempt α}
    (h : Alone top start (OnOk Q) x.run w) :
    Alone top start (OnOk Q) (withContext context x).run w :=
  Serial.safe_bind h fun
    | .ok _, _, ht, hq => ⟨ht, hq⟩
    | .error _, _, ht, _ => ⟨ht, trivial⟩

/-! ## Files -/

/-- A directory stays one. -/
theorem isDirectory_mono {files files' : FileTree String (List UInt8)} (h : files ≤ files')
    {path : Path} (hdir : files.IsDirectory path) : files'.IsDirectory path := by
  refine hdir.imp_right fun hnode => ?_
  obtain ⟨e, he, hnode⟩ := Option.map_eq_some_iff.1 hnode
  obtain ⟨e', he', hsame, -⟩ := h _ _ he
  exact Option.map_eq_some_iff.2 ⟨e', he', hsame.trans hnode⟩

/-- A node stays as it is. -/
theorem node_mono {files files' : FileTree String (List UInt8)} (h : files ≤ files') {path : Path}
    {node : FileNode (List UInt8)} (hnode : files.node path = some node) :
    files'.node path = some node := by
  obtain ⟨e, he, hnode⟩ := Option.map_eq_some_iff.1 hnode
  obtain ⟨e', he', hsame, -⟩ := h _ _ he
  exact Option.map_eq_some_iff.2 ⟨e', he', hsame.trans hnode⟩

/-- The directory is there afterwards. -/
theorem alone_makeDirectory (hw : Within top start w.files) {path : Path}
    (htop : path.head? = some top) :
    Alone top start (OnOk fun _ t => t.files.IsDirectory path)
      (attempt (perform (.makeDirectory path))).run w := by
  refine alone_perform hw htop (fun env => ?_) ?_
  · match hr : (w.effect env (.makeDirectory path)).1 with
    | .error _ => trivial
    | .ok () =>
      obtain ⟨disk, hdisk⟩ := makeDirectory_eq_ok hr
      exact .inr (congrArg (Option.map FileEntry.node) hdisk)
  · rintro _ _ ⟨_, rfl⟩
    trivial

/-- A sync touches no node. -/
theorem alone_syncDirectory (hw : Within top start w.files) (path : Path) :
    Alone top start (OnOk fun _ _ => True) (attempt (perform (.syncDirectory path))).run w :=
  alone_perform hw trivial (fun _ => trivial) fun _ _ _ => onOk_true _ _

/-- Looking touches no node. -/
theorem alone_lstat (hw : Within top start w.files) (path : Path) :
    Alone top start (OnOk fun _ _ => True) (attempt (perform (.lstat path))).run w :=
  alone_perform hw trivial (fun _ => trivial) fun _ _ _ => onOk_true _ _

/-- A link writes under `top` if its path is there. -/
theorem alone_link (hw : Within top start w.files) {path : Path} (htop : path.head? = some top)
    (contents : List UInt8) :
    Alone top start (OnOk fun _ _ => True) (attempt (perform (.link path contents))).run w :=
  alone_perform hw htop (fun _ => onOk_true _ _) fun _ _ _ => onOk_true _ _

/-- The contents that were read are the node's. -/
theorem alone_readFile (hw : Within top start w.files) (path : Path) :
    Alone top start (OnOk fun contents t => t.files.node path = some (.file contents))
      (attempt (perform (.readFile path))).run w := by
  refine alone_perform hw trivial (fun env => ?_) ?_
  · match hr : (w.effect env (.readFile path)).1 with
    | .error _ => trivial
    | .ok contents =>
      obtain ⟨disk, hdisk⟩ := readFile_eq_ok hr
      exact congrArg (Option.map FileEntry.node) hdisk
  · rintro _ _ ⟨_, rfl⟩
    trivial

/-- The directories down to the last of `parts`. -/
theorem alone_ensureDurableDirectories : ∀ {parts : List String} {current : Path} {w : World},
    Within top start w.files → (current ++ parts).head? = some top →
    (∀ q, q <+: current → w.files.IsDirectory q) →
    Alone top start (OnOk fun _ t => ∀ q, q <+: current ++ parts → t.files.IsDirectory q)
      (ensureDurableDirectories current parts).run w
  | [], current, w, hw, _, hdirs => ⟨hw, by rwa [List.append_nil]⟩
  | part :: parts, current, w, hw, htop, hdirs => by
      rw [List.append_cons] at htop ⊢
      have hhead : (current ++ [part]).head? = some top := by
        rw [← htop]
        simp [List.head?_append]
      refine alone_try (alone_checked hw) fun _ t ht hwt _ => ?_
      refine alone_try (alone_makeDirectory ht hhead) fun _ t' ht' htt' hdir => ?_
      refine alone_try (alone_withContext (alone_syncDirectory ht' _))
        fun _ t'' ht'' htt'' _ => ?_
      refine alone_ensureDurableDirectories ht'' htop fun q hq => ?_
      obtain rfl | hq := List.prefix_concat_iff.1 hq
      · exact isDirectory_mono htt'' hdir
      · exact isDirectory_mono (le_trans hwt (le_trans htt' htt'')) (hdirs q hq)

variable {codec : Codec} {evidence : RawEvidence} {dir path : Path}

/-- A raw file that passes its check has the evidence's size and hash. -/
theorem alone_verifyFilesystemRawFile (hw : Within top start w.files) :
    Alone top start (OnOk fun _ t => ∃ contents, t.files.node path = some (.file contents) ∧
      Fits codec evidence contents) (verifyFilesystemRawFile codec path evidence).run w := by
  refine alone_try (alone_readFile hw _) fun contents t ht hwt hread => ?_
  refine alone_try (alone_checked ht) fun _ t' ht' htt' hlength => ?_
  refine Serial.safe_imp ?_ (alone_grows le_rfl (alone_checked ht'))
  rintro (_ | _) u _ ⟨hhash, hle⟩
  · trivial
  · exact ⟨contents, node_mono (le_trans htt' hle) hread, by simpa using hlength,
      by simpa using failIf_eq_ok.1 hhash⟩

/-- **After the raw file was ensured there is one that fits**, whether this call has written it or
found it. -/
theorem alone_ensureDurableRawFile (hw : Within top start w.files)
    (htop : path.head? = some top) :
    Alone top start (OnOk fun _ t => ∃ contents, t.files.node path = some (.file contents) ∧
      Fits codec evidence contents) (ensureDurableRawFile codec dir path evidence).run w := by
  refine alone_try (alone_withContext (alone_lstat hw _)) fun found t ht _ _ => ?_
  split
  · refine alone_try (alone_withContext (alone_syncDirectory ht _)) fun _ t' ht' _ _ => ?_
    exact alone_verifyFilesystemRawFile ht'
  · refine alone_try (alone_withContext (alone_link ht htop _)) fun _ t' ht' _ _ => ?_
    refine alone_try (alone_withContext (alone_syncDirectory ht' _)) fun _ t'' ht'' _ _ => ?_
    exact alone_verifyFilesystemRawFile ht''

/-! ## The closed segment -/

/-- An artifact of the segment is written under `top`. -/
theorem alone_publishImmutableFilesystemArtifact (hw : Within top start w.files)
    (htop : path.head? = some top) (payload : List UInt8) :
    Alone top start (OnOk fun _ _ => True)
      (publishImmutableFilesystemArtifact dir path payload).run w := by
  refine alone_try (alone_withContext (alone_lstat hw _)) fun found t ht _ _ => ?_
  split
  · refine alone_try (alone_withContext (alone_syncDirectory ht _)) fun _ t' ht' _ _ => ?_
    exact ⟨ht', trivial⟩
  · refine alone_try (alone_withContext (alone_link ht htop _)) fun _ t' ht' _ _ => ?_
    refine alone_try (alone_withContext (alone_syncDirectory ht' _)) fun _ t'' ht'' _ _ => ?_
    exact ⟨ht'', trivial⟩

/-- A manifest that was read is handed on once it is valid. -/
theorem alone_validated {manifestBytes : List UInt8} (hw : Within top start w.files) :
    Alone top start (OnOk fun _ _ => True) (do
      checked (validateFilesystemSegmentManifest codec manifestBytes evidence)
      return manifestBytes : Attempt (List UInt8)).run w :=
  alone_try (alone_checked hw) fun _ _ ht _ _ => ⟨ht, trivial⟩

/-- The manifest lies under `top` like the raw file. -/
theorem alone_ensureFilesystemSegmentManifest (hw : Within top start w.files)
    (htop : path.head? = some top) :
    Alone top start (OnOk fun _ _ => True)
      (ensureFilesystemSegmentManifest codec dir path evidence).run w := by
  refine alone_try (alone_withContext (alone_lstat hw _)) fun found t ht _ _ => ?_
  split
  · exact alone_try (alone_readFile ht _) fun _ t' ht' _ _ => alone_validated ht'
  · refine alone_try (Q := fun _ _ => True) (Serial.safe_lift (alone_perform ht trivial
      (fun _ => trivial) fun _ _ _ => trivial)) fun now t' ht' _ _ => ?_
    refine alone_try (alone_withContext (alone_publishImmutableFilesystemArtifact ht' htop _))
      fun _ t'' ht'' _ _ => ?_
    exact alone_try (alone_readFile ht'' _) fun _ u hu _ _ => alone_validated hu

/-- So does its digest. -/
theorem alone_ensureExactFilesystemArtifact (hw : Within top start w.files)
    (htop : path.head? = some top) (expected : List UInt8) :
    Alone top start (OnOk fun _ _ => True)
      (ensureExactFilesystemArtifact dir path expected).run w := by
  refine alone_try (alone_publishImmutableFilesystemArtifact hw htop _) fun _ t ht _ _ => ?_
  refine alone_try (alone_readFile ht _) fun _ t' ht' _ _ => ?_
  exact Serial.safe_imp (fun _ _ _ _ => onOk_true _ _) (alone_checked ht')

/-- The final check only reads. -/
theorem alone_verifyFilesystemSegmentClosure (hw : Within top start w.files) :
    Alone top start (OnOk fun _ _ => True)
      (verifyFilesystemSegmentClosure codec dir evidence).run w := by
  refine alone_try (alone_readFile hw _) fun _ t ht _ _ => ?_
  refine alone_try (alone_checked ht) fun _ t' ht' _ _ => ?_
  refine alone_try (alone_readFile ht' _) fun _ t'' ht'' _ _ => ?_
  exact Serial.safe_imp (fun _ _ _ _ => onOk_true _ _) (alone_checked ht'')

/-- Closing the segment therefore keeps the raw file that was ensured. -/
theorem alone_ensureClosedFilesystemSegment (hw : Within top start w.files)
    (htop : dir.head? = some top) :
    Alone top start (OnOk fun _ _ => True)
      (ensureClosedFilesystemSegment codec dir evidence).run w := by
  have hbelow (name : String) : (dir ++ [name]).head? = some top := by
    rw [List.head?_append, htop]
    rfl
  refine alone_try (alone_ensureFilesystemSegmentManifest hw (hbelow _)) fun _ t ht _ _ => ?_
  refine alone_try (alone_withContext (alone_ensureExactFilesystemArtifact ht (hbelow _) _))
    fun _ t' ht' _ _ => ?_
  refine alone_try (alone_verifyFilesystemSegmentClosure ht') fun _ t'' ht'' _ _ => ?_
  exact alone_withContext (alone_syncDirectory ht'' _)

/-! ## The store -/

/-- The stored file of an event, with the directories above it. -/
def StoredAt (codec : Codec) (evidence : RawEvidence) (files : FileTree String (List UInt8))
    (contents : List UInt8) : Prop :=
  (∀ q, q <+: segmentPath evidence → files.IsDirectory q) ∧
    files.node (rawPath evidence) = some (.file contents) ∧ Fits codec evidence contents

/-- What is stored at the locator's path stays there. -/
theorem StoredAt.mono {files files' : FileTree String (List UInt8)} {contents : List UInt8}
    (h : StoredAt codec evidence files contents) (hle : files ≤ files') :
    StoredAt codec evidence files' contents :=
  ⟨fun q hq => isDirectory_mono hle (h.1 q hq), node_mono hle h.2.1, h.2.2⟩

variable (codec) in
/-- **`EnsureDurable` alone**: what it accepted, what it returns, and what is stored. -/
theorem alone_ensureDurable (hw : Within evidence.tenantId start w.files) :
    Alone evidence.tenantId start (OnOk fun object t => object = rawObjectOf evidence ∧
      validateFilesystemRawEvidence codec evidence = .ok () ∧
      ∃ contents, StoredAt codec evidence t.files contents)
      (ensureDurable codec evidence).run w := by
  have htop : (segmentPath evidence).head? = some evidence.tenantId := rfl
  refine alone_try (alone_checked hw) fun _ t ht _ hvalid => ?_
  refine alone_try (alone_withContext (alone_ensureDurableDirectories ht htop fun q hq => ?_))
    fun _ t' ht' _ hdirs => ?_
  · exact .inl (List.prefix_nil.1 hq)
  refine alone_try (alone_ensureDurableRawFile ht' rfl) fun _ t'' ht'' htt'' hfile => ?_
  obtain ⟨contents, hnode, hfits⟩ := hfile
  have hstored : StoredAt codec evidence t''.files contents :=
    ⟨fun q hq => isDirectory_mono htt'' (hdirs q hq), hnode, hfits⟩
  refine alone_try (alone_withContext (alone_ensureClosedFilesystemSegment ht'' htop))
    fun _ u hu htu _ => ?_
  exact ⟨hu, rfl, hvalid, contents, hstored.mono htu⟩

end

/-! ## Escaping -/

/-- A text is escaped byte by byte. -/
theorem escapePath_append (s t : String) : escapePath (s ++ t) = escapePath s ++ escapePath t := by
  rw [escapePath, bytes_append, List.flatMap_append, String.ofList_append]
  rfl

/-- The locator of a path, name by name. -/
theorem storageUri_eq (path : Path) :
    storageUri path = "raw:///" ++ "/".intercalate (path.map escapePath) := by
  have hslash : escapePath "/" = "/" := by decide
  have hnames : ∀ path : Path,
      escapePath ("/".intercalate path) = "/".intercalate (path.map escapePath) := fun path => by
    induction path with
    | nil => rfl
    | cons name path ih =>
      match path with
      | [] => rw [String.intercalate_singleton]; exact String.intercalate_singleton.symm
      | next :: path =>
        rw [String.intercalate_cons_cons, escapePath_append, escapePath_append, ih, hslash]
        exact String.intercalate_cons_cons.symm
  rw [storageUri, escapePath_append, hnames, hslash, ← String.append_assoc]
  rfl

/-- A byte that is left as it is is ASCII. -/
theorem toNat_of_isPathByte {b : UInt8} (h : isPathByte b) : b.toNat < 128 := by
  simp only [isPathByte, Validation.isHex, List.contains_cons, List.contains_nil, Bool.or_eq_true,
    Bool.and_eq_true, beq_iff_eq, decide_eq_true_eq, UInt8.le_iff_toNat_le, ← UInt8.toNat_inj,
    UInt8.reduceToNat, Bool.false_eq_true, or_false] at h
  omega

/-- How a byte is written. -/
def escapeByte (b : UInt8) : List Char :=
  if isPathByte b then [Char.ofNat b.toNat]
  else ['%', upperHexDigit (b.toNat / 16), upperHexDigit (b.toNat % 16)]

/-- The escaped text, as the list of its characters. -/
theorem toList_escapePath (s : String) : (escapePath s).toList = (bytes s).flatMap escapeByte :=
  String.toList_ofList

/-- **A name no byte of which is encoded stays as it is.** -/
theorem escapePath_of_plain {s : String} (h : ∀ b ∈ bytes s, isPathByte b) : escapePath s = s := by
  have hascii : ∀ c ∈ s.toList, c.toNat < 128 := fun c hc =>
    toNat_lt_of_bytes (fun b hb => toNat_of_isPathByte (h b hb)) hc
  have hbytes : bytes s = s.toList.map Char.toUInt8 := by
    rw [bytes_eq_flatMap, ← List.flatMap_pure_eq_map]
    exact List.flatMap_congr fun c hc => utf8EncodeChar_of_lt (hascii c hc)
  rw [← String.toList_inj, toList_escapePath, hbytes, List.flatMap_map]
  calc s.toList.flatMap (fun c => escapeByte c.toUInt8)
      = s.toList.flatMap pure := List.flatMap_congr fun c hc => by
        have hpath : isPathByte c.toUInt8 := h _ (mem_bytes_of_mem (hascii c hc) hc)
        rw [escapeByte, if_pos hpath, ofNat_toUInt8 (hascii c hc)]
        rfl
    _ = s.toList := List.flatMap_pure_eq_map id s.toList |>.trans (List.map_id _)

/-- A byte that is encoded leaves its mark. -/
theorem percent_mem_escapePath {s : String} {b : UInt8} (hb : b ∈ bytes s)
    (hpath : isPathByte b = false) : '%' ∈ (escapePath s).toList := by
  rw [toList_escapePath]
  refine List.mem_flatMap.2 ⟨b, hb, ?_⟩
  rw [escapeByte, if_neg (by simp [hpath])]
  exact List.mem_cons_self

/-- A text does not get shorter by replacing each character by at least one. -/
theorem length_le_flatMap {α β : Type} {f : α → List β} (hf : ∀ a, f a ≠ []) :
    ∀ l : List α, l.length ≤ (l.flatMap f).length
  | [] => le_rfl
  | a :: l => by
      have ha := List.length_pos_of_ne_nil (hf a)
      have hl := length_le_flatMap hf l
      rw [List.flatMap_cons, List.length_append, List.length_cons]
      omega

/-- A name with such a byte gets longer. -/
theorem escapePath_ne {s : String} {b : UInt8} (hb : b ∈ bytes s) (hpath : isPathByte b = false) :
    escapePath s ≠ s := by
  intro heq
  have hbyte (x : UInt8) : escapeByte x ≠ [] := by
    unfold escapeByte
    split
    all_goals exact List.cons_ne_nil _ _
  obtain ⟨l₁, l₂, hsplit⟩ := List.append_of_mem hb
  have hthree : (escapeByte b).length = 3 := by rw [escapeByte, if_neg (by simp [hpath])]; rfl
  have hlonger : (bytes s).length < (escapePath s).toList.length := by
    have h₁ := length_le_flatMap hbyte l₁
    have h₂ := length_le_flatMap hbyte l₂
    rw [toList_escapePath, hsplit, List.flatMap_append, List.flatMap_cons]
    simp only [List.length_append, List.length_cons, hthree]
    omega
  have hshorter : s.toList.length ≤ (bytes s).length := by
    rw [bytes_eq_flatMap]
    exact length_le_flatMap (fun _ => String.utf8EncodeChar_ne_nil) _
  rw [heq] at hlonger
  omega

/-- No slash comes from a digit of an escape. -/
theorem upperHexDigit_ne_slash (n : ℕ) (h : n < 16) : upperHexDigit n ≠ '/' := by
  revert h
  revert n
  decide

/-- So a name without a slash has none after it was escaped either, and the locator splits into its
components. -/
theorem slash_notMem_escapePath {s : String} (h : '/' ∉ s.toList) :
    '/' ∉ (escapePath s).toList := by
  rw [toList_escapePath]
  intro hmem
  obtain ⟨b, hb, hmem⟩ := List.mem_flatMap.1 hmem
  have hlt : b.toNat < 256 := b.toNat_lt
  unfold escapeByte at hmem
  split at hmem
  · rename_i hpath
    refine h ?_
    rw [List.mem_singleton.1 hmem]
    exact mem_of_mem_bytes hb (toNat_of_isPathByte hpath)
  · simp only [List.mem_cons, List.not_mem_nil, or_false] at hmem
    obtain hmem | hmem | hmem := hmem
    · cases hmem
    · exact upperHexDigit_ne_slash _ (by omega) hmem.symm
    · exact upperHexDigit_ne_slash _ (by omega) hmem.symm

/-! ## Names -/

/-- What the writer accepts as a component the reader accepts as a name. -/
theorem isName_of_component {name value : String}
    (h : validateFilesystemPathComponent name value = .ok ()) : Normalizer.IsName value := by
  simp only [validateFilesystemPathComponent, check_bind_eq_ok, failIf_eq_ok, Bool.or_eq_false_iff,
    beq_eq_false_iff_ne, List.any_eq_false, Bool.not_eq_true] at h
  obtain ⟨hempty, ⟨hdot, hdots⟩, hchars⟩ := h
  exact ⟨hempty, hdot, hdots, fun hmem => (hchars '/' hmem).1.1 rfl⟩

/-- An escaped name is a name. -/
theorem isName_escapePath {name value : String}
    (h : validateFilesystemPathComponent name value = .ok ()) :
    Normalizer.IsName (escapePath value) := by
  have hname := isName_of_component h
  by_cases hplain : ∀ b ∈ bytes value, isPathByte b
  · rwa [escapePath_of_plain hplain]
  · push Not at hplain
    obtain ⟨b, hb, hpath⟩ := hplain
    have hpercent := percent_mem_escapePath hb (by simpa using hpath)
    refine ⟨?_, ?_, ?_, slash_notMem_escapePath hname.2.2.2⟩
    all_goals
      intro heq
      rw [heq] at hpercent
      exact absurd hpercent (by decide)

/-- A number is written with bytes that are not encoded. -/
theorem plain_padded (width : ℕ) (n : ℤ) : ∀ b ∈ bytes (padded width n), isPathByte b := by
  intro b hb
  rw [bytes_eq_flatMap] at hb
  obtain ⟨c, hc, hmem⟩ := List.mem_flatMap.1 hb
  have hrange : 48 ≤ c.toNat ∧ c.toNat ≤ 57 := by
    have := isDigit_of_mem_padded hc
    simpa [Char.isDigit, UInt32.le_iff_toNat_le] using this
  rw [utf8EncodeChar_of_lt (by omega), List.mem_singleton] at hmem
  have hbyte : b.toNat = c.toNat := by
    rw [hmem]
    simp only [Char.toUInt8, UInt32.toNat_toUInt8]
    exact Nat.mod_eq_of_lt (by show c.toNat < 256; omega)
  simp only [isPathByte, Validation.isHex, Bool.or_eq_true, Bool.and_eq_true, decide_eq_true_eq,
    UInt8.le_iff_toNat_le, UInt8.reduceToNat]
  omega

/-- So is an accepted UUID. -/
theorem plain_of_uuidV7 {field value : String} (h : Validation.uuidV7 field value = .ok ()) :
    ∀ b ∈ bytes value, isPathByte b := by
  rw [Validation.uuidV7_eq] at h
  intro b hb
  have hbyte := isUuidByte_of_validateUuidV7 h b hb
  simp only [isUuidByte, isAsciiHexdigit, isAsciiDigit, Bool.or_eq_true, beq_iff_eq] at hbyte
  simp only [isPathByte, Validation.isHex, List.contains_cons, Bool.or_eq_true, beq_iff_eq]
  tauto

/-! ## The round trip -/

variable {codec : Codec} {evidence : RawEvidence}

/-- The notification carries the locator of an object. -/
structure Carries (object : RawObject) (persisted : RawEventPersisted) : Prop where
  storageUri : persisted.storageUri = object.storageUri
  offset : persisted.offset = object.offset
  length : persisted.length = object.length

/-- **The locator of an event resolves**: whatever the operations answer, if the preserver accepts
the evidence then the reader gets the stored bytes, at once and as long as nothing is taken away. -/
def LocatorResolves (codec : Codec) (evidence : RawEvidence) : Prop :=
  ∀ w : World, Serial.Safe World.Outcome (fun _ => True) (fun _ _ => True)
    (OnOk fun object t => ∃ contents, t.files.node (rawPath evidence) = some (.file contents) ∧
      Fits codec evidence contents ∧ ∀ files persisted, t.files ≤ files →
        Carries object persisted → Normalizer.read files persisted = .ok contents)
    (ensureDurable codec evidence).run w

/-- The preserver accepts the evidence in a fresh deployment. -/
def Stores (codec : Codec) (evidence : RawEvidence) : Prop :=
  ∃ env, ((ensureDurable codec evidence).run.run (World.effect env) .empty).1.isOk

/-- Every component of the raw file's path is a valid one: the tenant, the hour, the event and the
name of the file. -/
theorem component_of_mem_rawPath (h : validateFilesystemRawEvidence codec evidence = .ok ())
    {name : String} (hname : name ∈ rawPath evidence) :
    validateFilesystemPathComponent "path component" name = .ok () := by
  obtain ⟨htenant, h⟩ := check_bind_eq_ok.1 h
  obtain ⟨hid, -⟩ := check_bind_eq_ok.1 h
  obtain hname | hname := List.mem_append.1 hname
  · exact component_of_mem_segmentPath htenant (mapError_eq_ok.1 hid) hname
  · obtain rfl := List.mem_singleton.1 hname
    decide

/-- Below the tenant nothing is encoded. -/
theorem escape_rawPath (h : validateFilesystemRawEvidence codec evidence = .ok ()) :
    (rawPath evidence).map escapePath = escapePath evidence.tenantId :: (rawPath evidence).tail := by
  obtain ⟨-, h⟩ := check_bind_eq_ok.1 h
  obtain ⟨hid, -⟩ := check_bind_eq_ok.1 h
  have hfile : escapePath filesystemRawDataFilename = filesystemRawDataFilename := by decide
  have huuid := escapePath_of_plain (plain_of_uuidV7 (mapError_eq_ok.1 hid))
  simp only [rawPath, segmentPath, hourPath, List.map_append, List.map_cons, List.map_nil,
    escapePath_of_plain (plain_padded _ _), huuid, hfile]
  rfl

/-- **A plain tenant**: the reader finds what was stored. -/
theorem locatorResolves_of_plain (hplain : ∀ b ∈ bytes evidence.tenantId, isPathByte b) :
    LocatorResolves codec evidence := by
  intro w
  have hstart : Within evidence.tenantId w.files w.files := fun q hq => .inl hq
  refine Serial.safe_of_inv (fun _ _ => trivial)
    (Serial.safe_imp ?_ (alone_ensureDurable codec hstart))
  rintro (_ | object) t _ h
  · trivial
  · obtain ⟨rfl, hvalid, contents, hstored⟩ := h
    refine ⟨contents, hstored.2.1, hstored.2.2, fun files persisted hle hcarries => ?_⟩
    obtain ⟨hdirs, hnode, hlength, -⟩ := hstored.mono hle
    have hnames : ∀ name ∈ rawPath evidence, Normalizer.IsName name :=
      fun name hname => isName_of_component (component_of_mem_rawPath hvalid hname)
    refine Normalizer.read_eq_ok hnames (List.cons_ne_nil _ _) ?_ hcarries.offset (hcarries.length.trans hlength.symm)
      (fun q hq hne => ?_) hnode
    · rw [hcarries.storageUri]
      refine (storageUri_eq _).trans ?_
      rw [escape_rawPath hvalid, escapePath_of_plain hplain]
      rfl
    · obtain rfl | hq := List.prefix_concat_iff.1 hq
      · exact absurd rfl hne
      · exact hdirs q hq

/-- **A tenant a byte of which is encoded**: in a fresh deployment the reader finds nothing. -/
theorem plain_of_locatorResolves (hstores : Stores codec evidence)
    (h : LocatorResolves codec evidence) : ∀ b ∈ bytes evidence.tenantId, isPathByte b := by
  by_contra hencoded
  push Not at hencoded
  obtain ⟨b, hb, hpath⟩ := hencoded
  obtain ⟨env, hok⟩ := hstores
  have hh (o : Op) (w : World) : World.Outcome o w (w.effect env o).1 (w.effect env o).2 :=
    ⟨env, .inl rfl⟩
  have hstart : Within evidence.tenantId World.empty.files World.empty.files :=
    fun _ hq => .inl hq
  obtain ⟨hwithin, hpost⟩ := Serial.Safe.run hh (alone_ensureDurable codec hstart)
  have hresolves := (Serial.Safe.run hh (h .empty)).2
  match hrun : (ensureDurable codec evidence).run.run (World.effect env) .empty with
  | (.error _, _) =>
    rw [hrun] at hok
    exact nomatch hok
  | (.ok object, t) =>
    rw [hrun] at hwithin hpost hresolves
    obtain ⟨rfl, hvalid, -⟩ := hpost
    obtain ⟨contents, -, -, hread⟩ := hresolves
    have hother : escapePath evidence.tenantId ≠ evidence.tenantId :=
      escapePath_ne hb (by simpa using hpath)
    have hmissing : t.files [escapePath evidence.tenantId] = none := by
      rw [← Option.not_isSome_iff_eq_none]
      intro hsome
      obtain hempty | htop := hwithin _ hsome
      · exact nomatch hempty
      · exact hother (Option.some.inj htop)
    have hnames : ∀ name ∈ escapePath evidence.tenantId :: (rawPath evidence).tail,
        Normalizer.IsName name := fun name hname => by
      rw [← escape_rawPath hvalid] at hname
      obtain ⟨part, hpart, rfl⟩ := List.mem_map.1 hname
      exact isName_escapePath (component_of_mem_rawPath hvalid hpart)
    refine Normalizer.read_ne_ok hnames ?_ hmissing contents
      (hread t.files (persistedOf sampleEvent (rawObjectOf evidence) ⟨0, 0⟩) le_rfl ⟨rfl, rfl, rfl⟩)
    rw [← escape_rawPath hvalid]
    exact storageUri_eq _

/-- **The locator resolves exactly if no byte of the tenant's name is encoded.** -/
theorem locatorResolves_iff (hstores : Stores codec evidence) :
    LocatorResolves codec evidence ↔ ∀ b ∈ bytes evidence.tenantId, isPathByte b :=
  ⟨plain_of_locatorResolves hstores, locatorResolves_of_plain⟩

/-- An event of a tenant with a plain name resolves. -/
theorem locatorResolves_sample :
    Stores sampleCodec (evidenceOf sampleEvent) ∧
      LocatorResolves sampleCodec (evidenceOf sampleEvent) := by
  have hstores : Stores sampleCodec (evidenceOf sampleEvent) :=
    ⟨sampleEnvironment, by decide +kernel⟩
  exact ⟨hstores, (locatorResolves_iff hstores).2 (by decide +kernel)⟩

/-! ### A tenant with a space in its name -/

/-- The evidence of a tenant whose name has a blank. -/
def spacedEvidence : RawEvidence := { evidenceOf sampleEvent with tenantId := "acme corp" }

/-- The text of its manifest, in which the blank stands as it is. -/
def spacedManifestText : String :=
  "\x7b\"manifest_version\":1,\"segment_id\":\"" ++ sampleEventId ++
    "\",\"tenant_id\":\"acme corp\",\"event_count\":1,\"first_event_id\":\"" ++ sampleEventId ++
    "\",\"last_event_id\":\"" ++ sampleEventId ++
    "\",\"created_at\":\"2026-09-13T18:00:01Z\",\"previous_segment_hash\":null," ++
    "\"content_hash\":\"sha256:" ++ sampleHash ++ "\"\x7d"

/-- The libraries on its bytes. -/
def spacedCodec : Codec where
  sha256LowerHex data :=
    if data = [0x61] then sampleHash
    else if data = bytes spacedManifestText ++ [lineFeed] then
      "94363ea68de6485d6ad827cdf86ef43804fbc68855135a7f3ee3ba818e5fe132"
    else "e3b0c44298fc1c149afbf4c8996fb92427ae41e4649b934ca495991b7852b855"
  unmarshalRawEvent _ := none
  unmarshalEnvelope _ := none
  marshalManifest _ := bytes spacedManifestText
  unmarshalManifest data :=
    if data = bytes spacedManifestText then some (newManifest spacedEvidence ⟨1789322401, 0⟩)
    else none

/-- Its event is stored under `acme corp`, and looked for under `acme%20corp`. -/
theorem not_locatorResolves_spaced :
    Stores spacedCodec spacedEvidence ∧
      storageUri (rawPath spacedEvidence) =
        "raw:///acme%20corp/2026/09/13/18/01890a5d-ac96-774b-bcce-b302099a8057/raw.bin" ∧
      ¬ LocatorResolves spacedCodec spacedEvidence := by
  have hstores : Stores spacedCodec spacedEvidence := ⟨sampleEnvironment, by decide +kernel⟩
  refine ⟨hstores, by decide +kernel, fun h => ?_⟩
  exact absurd (plain_of_locatorResolves hstores h) (by decide +kernel)

end Preserver

end Cerbero
