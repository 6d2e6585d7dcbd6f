import Std.Time.DateTime.Timestamp
import Stencil.CommandLine.Process

/-!
# The program

The outermost layer: it looks at the files, the environment and the clock, runs the program on what
it has seen, and writes out what the program leaves. The files that are looked at are those below
the working directory, those that the arguments or the configuration name, and the configuration in
the home directory.
-/

namespace Stencil.Host

/-- The file tree with a node at an address; directories on the way are made. -/
def plant (child : Node) : Location → Node → Node
  | [], _ => child
  | name :: rest, n =>
    let below := plant child rest ((n.child? name).getD .empty)
    .directory (Node.setEntry name (some below) n.entries)

/-- The address of an absolute path. -/
def locate (path : String) : Location :=
  (Text.splitOn '/' path.toList).filter (!·.isEmpty)

/-- Reads a node with all that is below it, if it can be read. A link leads to its real path. -/
partial def readNode (e : IO.FS.DirEntry) : IO (Option Node) := do
  try
    match (← e.path.symlinkMetadata).type with
    | .file => return some (.file (← IO.FS.readBinFile e.path).toList)
    | .dir =>
      let mut entries := []
      for child in ← e.path.readDir do
        if let some n ← readNode child then
          entries := (child.fileName.toList, n) :: entries
      return some (.directory entries.reverse)
    | .symlink => return some (.link (← IO.FS.realPath e.path).toString.toList)
    | .other => return some .device
  catch _ => return none

/-- Adds what a path leads to, unless it is there already or cannot be read. -/
def look (files : FileSystem) (path : Text) : IO FileSystem := do
  if path.isEmpty || files.isThere ⟨path⟩ then return files
  try
    let real ← IO.FS.realPath (String.ofList path)
    match ← readNode ⟨"/", real.toString⟩ with
    | some n => return { files with top := plant n (locate real.toString) files.top }
    | none => return files
  catch _ => return files

/-- Writes what is new in a file tree. -/
partial def save (e : IO.FS.DirEntry) (before : Option Node) (after : Node) : IO Unit := do
  match before, after with
  | some (.file old), .file bytes =>
    if old ≠ bytes then IO.FS.writeBinFile e.path ⟨bytes.toArray⟩
  | _, .file bytes => IO.FS.writeBinFile e.path ⟨bytes.toArray⟩
  | old, .directory entries => do
    if !old.any Node.isDirectory then IO.FS.createDirAll e.path
    for (name, n) in entries do
      save ⟨e.path, String.ofList name⟩ (old.bind (·.child? name)) n
  | _, _ => return ()

/-- The environment variables of the process. -/
def environment : IO Environment := do
  let bytes ← try IO.FS.readBinFile "/proc/self/environ" catch _ => pure ⟨#[]⟩
  let entries := Text.splitOn '\x00' (Utf8.decodeLossy bytes.toList)
  return ⟨entries.filterMap (Text.splitFirst? '=')⟩

/-- The current time. -/
def now : IO Moment := do
  let nanos := (← Std.Time.Timestamp.now).toNanosecondsSinceUnixEpoch.val
  let seconds := nanos / 1000000000
  return ⟨seconds / 86400, (seconds % 86400).toNat, (nanos % 1000000000).toNat⟩

/-- An identifier that no other run has, in the usual form of random ones. -/
def identifier : IO Text := do
  let mut digits : Text := []
  for place in List.range 32 do
    let d ← if place = 12 then pure 4 else if place = 16 then IO.rand 8 11 else IO.rand 0 15
    if place = 8 ∨ place = 12 ∨ place = 16 ∨ place = 20 then digits := '-' :: digits
    digits := Nat.digitChar d :: digits
  return digits.reverse

/-- What the outside offers to the program. -/
def world (arguments : List Text) : IO World := do
  let cwd ← IO.currentDir
  let spot := locate cwd.toString
  let here := (← readNode ⟨"/", cwd.toString⟩).getD .empty
  let mut files : FileSystem := ⟨plant here spot .empty, spot⟩
  let env ← environment
  let home := ((Config.homeFile? env).map Path.text).toList
  for path in "/dev/null".toList :: home ++ arguments do
    files ← look files path
  let config :=
    match CommandLine.read arguments with
    | .ok invocation => (Config.load ⟨files, env, ⟨0, 0, 0⟩⟩ invocation.config).toOption
    | .error _ => none
  for path in (config.map fun c => [c.root.text, c.output.dir.text]).getD [] do
    files ← look files path
  return ⟨files, env, ← now⟩

end Stencil.Host

/-- Runs the program. -/
def main (arguments : List String) : IO UInt32 := do
  let arguments := arguments.map String.toList
  let world ← Stencil.Host.world arguments
  match Stencil.CommandLine.process world (← Stencil.Host.identifier) arguments with
  | none => return 1
  | some exit =>
    Stencil.Host.save ⟨"/", ""⟩ (some world.files.top) exit.files.top
    IO.print (String.ofList exit.out)
    IO.eprint (String.ofList exit.err)
    return exit.status.toUInt32
