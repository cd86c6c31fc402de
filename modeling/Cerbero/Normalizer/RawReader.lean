import Cerbero.Lib.FileTree
import Cerbero.Normalizer.Mapping

/-!
# Normalizer/RawReader — reading raw bytes by their locator

`FilesystemRawReader::read` of `raw_store.rs`: the prefix `raw:///` is taken off the locator and the
rest is a path below the root, as it stands.  There are no symbolic links in the store, so a path
that resolves does so below the root.
-/

namespace Cerbero

namespace Normalizer

open Text

/-! ## Paths -/

/-- `std::path::Component`, on Unix. -/
inductive Component
  | rootDir
  | curDir
  | parentDir
  | normal (name : String)
  deriving DecidableEq, Repr

def Component.isNormal : Component → Bool
  | .normal _ => true
  | _ => false

/-- A piece of a path after the first one. -/
def innerComponent (piece : List Char) : Option Component :=
  if piece = [] ∨ piece = ['.'] then none
  else if piece = ['.', '.'] then some .parentDir
  else some (.normal (String.ofList piece))

/-- `Path::components`, of the pieces between slashes. -/
def components : List (List Char) → List Component
  | [] => []
  | [[]] => []
  | [] :: rest => .rootDir :: rest.filterMap innerComponent
  | first :: rest =>
    (if first = ['.'] then some .curDir else innerComponent first).toList ++
      rest.filterMap innerComponent

section

variable (files : FileTree String (List UInt8))

/-- `std::fs::canonicalize`, from directory or file `current` down the pieces of a path. -/
def canonicalize : List String → List (List Char) → Except String (List String)
  | current, [] => .ok current
  | current, piece :: pieces =>
    if files.IsDirectory current then
      if piece = [] ∨ piece = ['.'] then canonicalize current pieces
      else if (files (current ++ [String.ofList piece])).isSome then
        canonicalize (current ++ [String.ofList piece]) pieces
      else .error "No such file or directory (os error 2)"
    else .error "Not a directory (os error 20)"

/-- `File::open`, `seek` and `read_exact` of `length` bytes. -/
def readExact (path : List String) (offset length : ℕ) : Except String (List UInt8) :=
  if length = 0 then .ok []
  else match (files path).map FileEntry.node with
    | some (.file contents) =>
      if ((contents.drop offset).take length).length = length then
        .ok ((contents.drop offset).take length)
      else .error "failed to fill whole buffer"
    | _ => .error "Is a directory (os error 21)"

/-! ## The reader -/

/-- `storage_error`. -/
def storageError (code message : String) (retryable : Bool) : NormalizerError :=
  ⟨code, message, retryable⟩

/-- **`FilesystemRawReader::read`**: the locator is resolved below the root, and as many bytes as
the record says are read from where it says. -/
def read (persisted : RawEventPersisted) : Outcome (List UInt8) := do
  let relative ← (stripPrefix "raw:///".toList persisted.storageUri.toList).elim
    (.error (storageError "CER-NORM-RAW-URI"
      "storage_uri must use raw:/// for the DEVELOPMENT filesystem Raw Store" false)) .ok
  let pieces := relative.splitOn '/'
  if (components pieces).any fun component => !component.isNormal then
    .error (storageError "CER-NORM-RAW-URI" "storage_uri contains a non-normal path component" false)
  let canonical ← (canonicalize files [] pieces).mapError fun error =>
    storageError "CER-NORM-RAW-READ" ("resolve durable Raw Store object: " ++ error) true
  (readExact files canonical persisted.offset persisted.length).mapError fun error =>
    storageError "CER-NORM-RAW-READ" ("read exact durable Raw Store bytes: " ++ error) true

end

/-! ## Plain paths -/

/-- A name that stands for itself in a path. -/
def IsName (name : String) : Prop := name ≠ "" ∧ name ≠ "." ∧ name ≠ ".." ∧ '/' ∉ name.toList

theorem IsName.toList_ne {name : String} (h : IsName name) :
    name.toList ≠ [] ∧ name.toList ≠ ['.'] ∧ name.toList ≠ ['.', '.'] :=
  ⟨fun heq => h.1 (String.toList_inj.1 heq), fun heq => h.2.1 (String.toList_inj.1 heq),
    fun heq => h.2.2.1 (String.toList_inj.1 heq)⟩

theorem IsName.innerComponent {name : String} (h : IsName name) :
    innerComponent name.toList = some (.normal name) := by
  obtain ⟨hempty, hdot, hdots⟩ := h.toList_ne
  rw [Normalizer.innerComponent, if_neg (not_or.2 ⟨hempty, hdot⟩), if_neg hdots,
    String.ofList_toList]

/-- The components of a path of names are the names. -/
theorem components_names : ∀ {path : List String}, (∀ name ∈ path, IsName name) →
    components (path.map String.toList) = path.map .normal
  | [], _ => rfl
  | name :: path, h => by
      have hname := h name List.mem_cons_self
      have hrest : (path.map String.toList).filterMap innerComponent = path.map .normal := by
        rw [List.filterMap_map, ← List.filterMap_eq_map]
        exact List.filterMap_congr fun name' hname' =>
          (h name' (List.mem_cons_of_mem _ hname')).innerComponent
      match hchars : name.toList with
      | [] => exact absurd hchars hname.toList_ne.1
      | first :: rest =>
        rw [List.map_cons, hchars, components, ← hchars, if_neg hname.toList_ne.2.1,
          hname.innerComponent, hrest]
        · rfl
        · exact fun heq => nomatch heq
        · exact fun heq => nomatch heq

variable {files : FileTree String (List UInt8)}

/-- **A path of names resolves to itself**, if the directories above it are there. -/
theorem canonicalize_names : ∀ {path current : List String}, (∀ name ∈ path, IsName name) →
    (∀ q, q <+: path → q ≠ path → files.IsDirectory (current ++ q)) →
    (path ≠ [] → (files (current ++ path)).isSome) →
    canonicalize files current (path.map String.toList) = .ok (current ++ path)
  | [], current, _, _, _ => by rw [List.map_nil, canonicalize, List.append_nil]
  | name :: path, current, hnames, hdirs, hlast => by
      have hname := (hnames name List.mem_cons_self).toList_ne
      have hcurrent : files.IsDirectory current := by
        simpa using hdirs [] List.nil_prefix (List.cons_ne_nil _ _).symm
      have hfound : (files (current ++ [name])).isSome := by
        match path with
        | [] => exact hlast (List.cons_ne_nil _ _)
        | next :: path =>
          have hdir := hdirs [name] ⟨next :: path, rfl⟩ (by simp)
          obtain ⟨e, he, -⟩ := Option.map_eq_some_iff.1 (hdir.resolve_left (by simp))
          exact Option.isSome_iff_exists.2 ⟨e, he⟩
      rw [List.map_cons, canonicalize, if_pos hcurrent, if_neg (not_or.2 ⟨hname.1, hname.2.1⟩),
        String.ofList_toList, if_pos hfound, List.append_cons current name path]
      refine canonicalize_names (fun name' h => hnames name' (List.mem_cons_of_mem _ h))
        (fun q hq hne => ?_) fun _ => ?_
      · rw [← List.append_cons]
        exact hdirs (name :: q) ((List.prefix_cons_inj name).2 hq) (by simpa using hne)
      · rw [← List.append_cons]
        exact hlast (List.cons_ne_nil _ _)

/-- The locator of a path of names is that path. -/
theorem read_names {path : List String} {persisted : RawEventPersisted}
    (hnames : ∀ name ∈ path, IsName name) (hpath : path ≠ [])
    (huri : persisted.storageUri = "raw:///" ++ "/".intercalate path) :
    read files persisted =
      ((canonicalize files [] (path.map String.toList)).mapError fun error =>
        storageError "CER-NORM-RAW-READ" ("resolve durable Raw Store object: " ++ error) true) >>=
      fun canonical => (readExact files canonical persisted.offset persisted.length).mapError
        fun error => storageError "CER-NORM-RAW-READ"
          ("read exact durable Raw Store bytes: " ++ error) true := by
  have hstrip : stripPrefix "raw:///".toList persisted.storageUri.toList =
      some ("/".intercalate path).toList := by
    rw [huri, String.toList_append]
    exact stripPrefix_append _ _
  have hpieces : ("/".intercalate path).toList.splitOn '/' = path.map String.toList := by
    rw [String.toList_intercalate]
    refine List.splitOn_intercalate '/' (fun l hl => ?_) (by simpa using hpath)
    obtain ⟨name, hname, rfl⟩ := List.mem_map.1 hl
    exact (hnames name hname).2.2.2
  have hnormal : ((components (path.map String.toList)).any fun c => !c.isNormal) = false := by
    rw [components_names hnames, List.any_eq_false]
    rintro c hc
    obtain ⟨name, -, rfl⟩ := List.mem_map.1 hc
    exact Bool.not_eq_true _ ▸ rfl
  unfold read
  rw [hstrip]
  simp only [Option.elim_some, bind, Except.bind, hpieces, hnormal, Bool.false_eq_true, if_false]

/-- **What the locator of a file reads**: all of it. -/
theorem read_eq_ok {path : List String} {persisted : RawEventPersisted} {contents : List UInt8}
    (hnames : ∀ name ∈ path, IsName name) (hpath : path ≠ [])
    (huri : persisted.storageUri = "raw:///" ++ "/".intercalate path)
    (hoffset : persisted.offset = 0) (hlength : persisted.length = contents.length)
    (hdirs : ∀ q, q <+: path → q ≠ path → files.IsDirectory q)
    (hfile : files.node path = some (.file contents)) : read files persisted = .ok contents := by
  have hfound : (files path).isSome := by
    obtain ⟨e, he, -⟩ := Option.map_eq_some_iff.1 hfile
    exact Option.isSome_iff_exists.2 ⟨e, he⟩
  have hexact : readExact files path 0 contents.length = .ok contents := by
    unfold readExact
    split
    · rename_i hzero
      rw [List.length_eq_zero_iff.1 hzero]
    · rw [← FileTree.node, hfile]
      simp
  rw [read_names hnames hpath huri, canonicalize_names hnames hdirs fun _ => hfound, hoffset,
    hlength]
  exact mapError_eq_ok.2 hexact

/-- A locator whose first name is not there reads nothing. -/
theorem read_ne_ok {path : List String} {top : String} {persisted : RawEventPersisted}
    (hnames : ∀ name ∈ top :: path, IsName name)
    (huri : persisted.storageUri = "raw:///" ++ "/".intercalate (top :: path))
    (hnone : files [top] = none) (contents : List UInt8) :
    read files persisted ≠ .ok contents := by
  have hname := (hnames top List.mem_cons_self).toList_ne
  have hroot : files.IsDirectory [] := Or.inl rfl
  have hmissing : canonicalize files [] ((top :: path).map String.toList) =
      .error "No such file or directory (os error 2)" := by
    rw [List.map_cons, canonicalize, if_pos hroot, if_neg (not_or.2 ⟨hname.1, hname.2.1⟩),
      String.ofList_toList, List.nil_append, hnone, if_neg (by simp)]
  rw [read_names hnames (List.cons_ne_nil _ _) huri, hmissing]
  exact fun h => nomatch h

end Normalizer

end Cerbero
