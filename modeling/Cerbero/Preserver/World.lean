import Cerbero.Lib.FileTree
import Cerbero.Lib.Program
import Cerbero.Preserver.Metadata

/-!
# Preserver/World — what the raw preserver acts on

The Raw Store's files, the PostgreSQL tables and the JetStream stream, and the operations the
preserver performs on them.  `effect` is what an operation does when nothing is wrong; `Outcome`
adds every failure: an error may be reported before or after the effect took place.
-/

namespace Cerbero

namespace Preserver

/-- `RawStreamName`. -/
def rawStreamName : String := "CERBERO_RAW"

/-- The acknowledgement of a publication. -/
structure PubAck where
  stream : String
  sequence : ℕ
  deriving DecidableEq, Repr

/-- A path below the root of the Raw Store. -/
abbrev Path := List String

/-- **The shared state.**  `stream` holds the publications JetStream has durably accepted; `sent`
is the history of what was handed to the publisher, with the consumer and the incoming message it
was sent for. -/
structure World where
  files : FileTree String (List UInt8)
  db : Database
  stream : List Publication
  sent : List ((String × String) × Publication)

/-- The operations. -/
inductive Op
  /-- `os.Mkdir`, where the directory may exist, and the check that it is one. -/
  | makeDirectory (path : Path)
  | syncDirectory (path : Path)
  /-- `os.Lstat`: is there something? -/
  | lstat (path : Path)
  /-- Write and sync a temporary file and `os.Link` it to its path; `false` if that was taken. -/
  | link (path : Path) (contents : List UInt8)
  /-- Read a regular file. -/
  | readFile (path : Path)
  | timeNow
  | clockNow
  | newId
  | find (consumerName messageId : String)
  | commitPreservation (record : Record)
  /-- `PublishMsg`, for the incoming message of a consumer. -/
  | publishMsg (consumerName messageId : String) (publication : Publication)
  | markPublished (consumerName messageId : String)

/-- What an operation answers. -/
@[reducible] def Op.Response : Op → Type
  | .makeDirectory _ => Fallible Unit
  | .syncDirectory _ => Fallible Unit
  | .lstat _ => Fallible Bool
  | .link _ _ => Fallible Bool
  | .readFile _ => Fallible (List UInt8)
  | .timeNow => Timestamp
  | .clockNow => Timestamp
  | .newId => Fallible String
  | .find _ _ => Fallible (Option Record)
  | .commitPreservation _ => Fallible Record
  | .publishMsg _ _ _ => Fallible (Option PubAck)
  | .markPublished _ _ => Fallible Unit

/-- The interface of the preserver. -/
@[reducible] def dependencies : Interface := ⟨Op, Op.Response⟩

/-- A program of the preserver. -/
abbrev Program := Prog dependencies

/-- A program of the preserver that may return an error. -/
abbrev Attempt := ExceptT String Program

/-- Perform one operation. -/
abbrev perform (o : Op) : Program o.Response := @Prog.call dependencies o

/-! ## Effects -/

/-- What the environment chooses: clock readings, generated identifiers, stream sequences. -/
structure Environment where
  timeNow : Timestamp
  clockNow : Timestamp
  databaseNow : Timestamp
  newId : Fallible String
  sequence : ℕ

/-- `os.Mkdir` and the check that the path is a directory.  What a file system refuses by itself, a
name over its `NAME_MAX` or a path over its `PATH_MAX`, is a call that fails and not an answer of
this function. -/
def makeDirectory (files : FileTree String (List UInt8)) (path : Path) :
    Fallible Unit × FileTree String (List UInt8) :=
  match files path with
  | some ⟨.directory, _⟩ => (.ok (), files)
  | some ⟨.file _, _⟩ => (.error "raw store path is not a real directory", files)
  | none =>
    if files.IsDirectory path.dropLast then (.ok (), files.create path .directory)
    else (.error "create directory: no such file or directory", files)

/-- `os.Link` of a file written before. -/
def link (files : FileTree String (List UInt8)) (path : Path) (contents : List UInt8) :
    Fallible Bool × FileTree String (List UInt8) :=
  match files path with
  | some _ => (.ok false, files)
  | none =>
    if files.IsDirectory path.dropLast then (.ok true, files.create path (.file contents))
    else (.error "publish immutable object: no such file or directory", files)

/-- Read a regular file. -/
def readFile (files : FileTree String (List UInt8)) (path : Path) : Fallible (List UInt8) :=
  match files path with
  | some ⟨.file contents, _⟩ => .ok contents
  | some ⟨.directory, _⟩ => .error "raw store evidence conflict: not a regular file"
  | none => .error "inspect: no such file or directory"

namespace World

/-- A fresh deployment. -/
def empty : World := ⟨.empty, .empty, [], []⟩

/-- A publication was handed to the publisher. -/
def send (w : World) (consumerName messageId : String) (publication : Publication) : World :=
  { w with sent := w.sent ++ [((consumerName, messageId), publication)] }

/-- A publication was accepted. -/
def accept (w : World) (publication : Publication) : World :=
  { w with stream := w.stream ++ [publication] }

/-- **What an operation does when nothing is wrong.** -/
def effect (env : Environment) : (o : Op) → World → o.Response × World
  | .makeDirectory path, w =>
    ((makeDirectory w.files path).1, { w with files := (makeDirectory w.files path).2 })
  | .syncDirectory path, w => (.ok (), { w with files := w.files.sync path })
  | .lstat path, w => (.ok (w.files path).isSome, w)
  | .link path contents, w =>
    ((link w.files path contents).1, { w with files := (link w.files path contents).2 })
  | .readFile path, w => (readFile w.files path, w)
  | .timeNow, w => (env.timeNow, w)
  | .clockNow, w => (env.clockNow, w)
  | .newId, w => (env.newId, w)
  | .find consumerName messageId, w => (w.db.find consumerName messageId, w)
  | .commitPreservation record, w =>
    ((w.db.commitPreservation record).1, { w with db := (w.db.commitPreservation record).2 })
  | .publishMsg consumerName messageId publication, w =>
    (.ok (some ⟨rawStreamName, env.sequence + 1⟩),
      (w.send consumerName messageId publication).accept publication)
  | .markPublished consumerName messageId, w =>
    ((w.db.markPublished env.databaseNow consumerName messageId).1,
      { w with db := (w.db.markPublished env.databaseNow consumerName messageId).2 })

/-- A response that reports a failure. -/
def Failed : (o : Op) → o.Response → Prop
  | .makeDirectory _, r => ∃ e, r = .error e
  | .syncDirectory _, r => ∃ e, r = .error e
  | .lstat _, r => ∃ e, r = .error e
  | .link _ _, r => ∃ e, r = .error e
  | .readFile _, r => ∃ e, r = .error e
  | .timeNow, _ => False
  | .clockNow, _ => False
  | .newId, r => ∃ e, r = .error e
  | .find _ _, r => ∃ e, r = .error e
  | .commitPreservation _, r => ∃ e, r = .error e
  | .publishMsg _ _ _, r => ∀ ack, r = .ok (some ack) → ack.stream ≠ rawStreamName ∨
      ack.sequence = 0
  | .markPublished _ _, r => ∃ e, r = .error e

/-- What was done when an operation reports a failure: nothing, a part, or all of it. -/
def Interrupted (env : Environment) (o : Op) (w w' : World) : Prop :=
  w' = w ∨ w' = (effect env o w).2 ∨
    ∃ consumerName messageId publication, o = .publishMsg consumerName messageId publication ∧
      w' = w.send consumerName messageId publication

/-- **The outcomes of an operation.** -/
def Outcome (o : Op) (w : World) (r : o.Response) (w' : World) : Prop :=
  ∃ env, (r, w') = effect env o w ∨ Failed o r ∧ Interrupted env o w w'

/-- A crash of the host loses what is not durable in the Raw Store; PostgreSQL and JetStream keep
what they have committed. -/
def Crash (w w' : World) : Prop :=
  ∃ files, w.files.Crash files ∧ w' = { w with files := files }

end World

end Preserver

end Cerbero
