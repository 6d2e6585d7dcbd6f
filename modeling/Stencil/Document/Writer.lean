import Stencil.Document.Error
import Stencil.Document.Numbering
import Stencil.Document.Settings
import Stencil.Text.Utf8

/-!
# Writing documents

A document goes to its file through a temporary file in the output directory, so that a write that
fails leaves nothing behind. A numbered document then claims a number: the temporary file is moved
to the path with that number only if nothing is there, and otherwise the next number is tried.

The steps are `step`, each of which looks at or changes the file system once. Several documents may
be written at the same time, their steps in any order; `write` takes the steps of one document
without others in between.
-/

namespace Stencil

/-- A document that is to be written. -/
structure Document where
  settings : OutputSettings
  name : Text
  content : Text

namespace Document

/-- The number of attempts at claiming a number. -/
def maxAttempts : Nat := 16

/-! ## Stages -/

/-- How far the writing of a document has come. -/
inductive Stage
  | start
  /-- The output directory is there. -/
  | scanning
  /-- The number has been chosen. -/
  | staging (number : Nat)
  /-- The temporary file is there, and a number is to be claimed with the attempts that are left. -/
  | claiming (temp : Location) (number attempts : Nat)
  /-- The temporary file is there, and is to replace what is at the target. -/
  | replacing (temp : Location)
  /-- The temporary file is to be removed after an error. -/
  | discarding (temp : Location) (error : OutputError)
  | written (path : Path)
  | failed (error : OutputError)
  deriving DecidableEq, Repr

/-! ## Temporary files -/

/-- The name of a temporary file. -/
def tempName (n : Nat) : Text :=
  ".tmp".toList ++ Text.ofNat n

/-- A name for a temporary file that is not taken. -/
def freshName (taken : List Text) : Text :=
  (((List.range (taken.length + 1)).map tempName).find? (· ∉ taken)).getD (tempName 0)

/-- The address of the output directory, which is the working directory if its path is empty. -/
def dirLocation (files : FileSystem) (dir : Path) : Except FileError Location :=
  if dir.text = [] then .ok files.cwd
  else
    match files.find true dir with
    | .ok (.node spot (.directory _)) => .ok spot
    | .ok (.node ..) => .error .notDirectory
    | .ok (.vacant ..) => .error .notFound
    | .error e => .error e

variable (d : Document)

/-- The path of the document with a number. -/
def target (number : Nat) : Path :=
  d.settings.target number d.name

/-- The bytes of the document. -/
def bytes : List UInt8 :=
  Utf8.encode d.content

/-- The number of bytes that is reported with the path of the document. -/
def size : Nat :=
  Text.byteLength d.content

/-- Puts the content into a temporary file, and returns its address. -/
def stage (files : FileSystem) : Except FileError (Location × FileSystem) :=
  match dirLocation files d.settings.dir with
  | .error e => .error e
  | .ok dir =>
    let taken := ((files.top.get? dir).getD .empty).entries.map Prod.fst
    let temp := dir ++ [freshName taken]
    .ok (temp, files.put temp (some (.file d.bytes)))

/-! ## Steps -/

/-- Takes the next step. -/
def step (stage : Stage) (files : FileSystem) : Stage × FileSystem :=
  match stage with
  | .start =>
    match files.createDirectories d.settings.dir with
    | (files, some e) => (.failed (.createDirectory d.settings.dir e), files)
    | (files, none) => (if d.settings.numbered then .scanning else .staging 0, files)
  | .scanning =>
    match Numbering.next? files d.settings.dir d.settings.extension with
    | some number => (.staging number, files)
    | none => (.failed (.write d.settings.dir .exhausted), files)
  | .staging number =>
    match d.stage files with
    | .error e => (.failed (.write (d.target number) (.file e)), files)
    | .ok (temp, files) =>
      (if d.settings.numbered then .claiming temp number maxAttempts else .replacing temp, files)
  | .claiming temp number 0 =>
    (.discarding temp (.write (d.target number) .noFreeNumber), files)
  | .claiming temp number (attempts + 1) =>
    match files.rename temp (d.target number) false with
    | .ok files => (.written (d.target number), files)
    -- Another document has this number and name.
    | .error .exists =>
      if number + 1 < Numbering.limit then (.claiming temp (number + 1) attempts, files)
      else (.discarding temp (.write (d.target number) .exhausted), files)
    | .error e => (.discarding temp (.write (d.target number) (.file e)), files)
  | .replacing temp =>
    match files.rename temp (d.target 0) true with
    | .ok files => (.written (d.target 0), files)
    | .error e => (.discarding temp (.write (d.target 0) (.file e)), files)
  -- The end of a failed write: the temporary file goes.
  | .discarding temp e => (.failed e, files.put temp none)
  | .written path => (.written path, files)
  | .failed e => (.failed e, files)

/-! ## Runs -/

/-- A bound on the number of steps that are left. -/
def Stage.remaining : Stage → Nat
  | .start => maxAttempts + 5
  | .scanning => maxAttempts + 4
  | .staging _ => maxAttempts + 3
  | .claiming _ _ attempts => attempts + 2
  | .replacing _ => 2
  | .discarding .. => 1
  | .written _ => 0
  | .failed _ => 0

/-- What the writing has come to, if it is over. -/
def Stage.result? : Stage → Option (Except OutputError Path)
  | .written path => some (.ok path)
  | .failed e => some (.error e)
  | _ => none

/-- Each step brings the end nearer. -/
theorem remaining_step_lt (stage : Stage) (files : FileSystem) (h : stage.result? = none) :
    (d.step stage files).1.remaining < stage.remaining := by
  unfold step
  split <;> (try split) <;> (try split) <;>
    simp_all [Stage.remaining, Stage.result?, maxAttempts]

/-- Takes steps until the document is written or has failed. -/
def run (stage : Stage) (files : FileSystem) : Except OutputError Path × FileSystem :=
  match h : stage.result? with
  | some result => (result, files)
  | none =>
    have := d.remaining_step_lt stage files h
    run (d.step stage files).1 (d.step stage files).2
termination_by stage.remaining

/-- Writes the document and returns its path. -/
def write (files : FileSystem) : Except OutputError Path × FileSystem :=
  d.run .start files

end Document

end Stencil
