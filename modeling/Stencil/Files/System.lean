import Stencil.Files.Error
import Stencil.Files.Node
import Stencil.Files.Path
import Stencil.Text.Utf8

/-!
# File systems

A file system is a tree with a working directory in it. `find` follows a path through directories
and symbolic links to a node, or to the place in a directory where a node could be made. The
operations on files are stated through it, each with the error that it ends in.
-/

namespace Stencil

/-- A file tree and the address of the working directory. -/
structure FileSystem where
  top : Node
  cwd : Location

/-- Where a path leads. -/
inductive Target
  /-- There is a node at the address. -/
  | node (spot : Location) (n : Node)
  /-- The directory at the address has no entry of this name. `slash` tells that the path ends in a
  slash. -/
  | vacant (dir : Location) (name : Text) (slash : Bool)

namespace FileSystem

/-! ## Following paths -/

/-- The number of bytes that a file name may have. -/
def maxNameBytes : Nat := 255

/-- The number of bytes below which a path must stay. -/
def maxPathBytes : Nat := 4096

/-- The number of symbolic links that are followed on the way. -/
def maxLinks : Nat := 40

/-- Follows the stretches of a path between slashes from the address `spot`. A link at the very end
is followed only if `follow` says so. -/
def follow (top : Node) (followLast : Bool) (links : Nat) (spot : Location)
    (segments : List Text) : Except FileError Target :=
  match segments with
  | [] =>
    match top.get? spot with
    | some n => .ok (.node spot n)
    | none => .error .notFound
  | segment :: rest =>
    match top.get? spot with
    | none => .error .notFound
    | some here =>
      if !here.isDirectory then .error .notDirectory
      else if segment = [] ∨ segment = ['.'] then follow top followLast links spot rest
      else if segment = ['.', '.'] then follow top followLast links spot.dropLast rest
      else if maxNameBytes < Text.byteLength segment then .error .nameTooLong
      else
        match here.child? segment with
        | none =>
          -- Slashes at the end do not matter as long as nothing follows them.
          if rest.all List.isEmpty then .ok (.vacant spot segment !rest.isEmpty)
          else .error .notFound
        | some (.link target) =>
          if rest = [] ∧ !followLast then .ok (.node (spot ++ [segment]) (.link target))
          else
            match links with
            | 0 => .error .linkLoop
            | links + 1 =>
              let way := Text.splitOn '/' target
              if target.head? = some '/' then follow top followLast links [] (way ++ rest)
              else follow top followLast links spot (way ++ rest)
        | some _ => follow top followLast links (spot ++ [segment]) rest
termination_by (links, segments.length)

/-- Where a path leads. A link at the very end is followed only if `followLast` says so. -/
def find (fs : FileSystem) (followLast : Bool) (p : Path) : Except FileError Target :=
  if '\x00' ∈ p.text then .error .nulInPath
  else if p.text = [] then .error .notFound
  else if maxPathBytes ≤ Text.byteLength p.text then .error .nameTooLong
  else
    follow fs.top followLast maxLinks (if p.isAbsolute then [] else fs.cwd)
      (Text.splitOn '/' p.text)

/-! ## Looking -/

/-- The node that a path leads to, links followed. -/
def stat (fs : FileSystem) (p : Path) : Except FileError Node :=
  match fs.find true p with
  | .ok (.node _ n) => .ok n
  | .ok (.vacant ..) => .error .notFound
  | .error e => .error e

/-- Whether a path leads to a node. -/
def isThere (fs : FileSystem) (p : Path) : Bool :=
  (fs.stat p).isOk

/-- Whether a path leads to a directory. -/
def isDirectory (fs : FileSystem) (p : Path) : Bool :=
  match fs.stat p with
  | .ok n => n.isDirectory
  | .error _ => false

/-- The bytes of the file that a path leads to. -/
def read (fs : FileSystem) (p : Path) : Except FileError (List UInt8) :=
  match fs.stat p with
  | .ok (.file bytes) => .ok bytes
  | .ok .device => .ok []
  | .ok (.directory _) => .error .isDirectory
  | .ok (.link _) => .error .linkLoop
  | .error e => .error e

/-- The text of the file that a path leads to, which has to be UTF-8. -/
def readText (fs : FileSystem) (p : Path) : Except FileError Text :=
  match fs.read p with
  | .error e => .error e
  | .ok bytes =>
    match Utf8.decode? bytes with
    | some s => .ok s
    | none => .error .notUtf8

/-- The names in the directory that a path leads to. -/
def names (fs : FileSystem) (p : Path) : Except FileError (List Text) :=
  match fs.stat p with
  | .ok (.directory es) => .ok (es.map Prod.fst)
  | .ok _ => .error .notDirectory
  | .error e => .error e

/-! ## Directories -/

/-- The file system with another node, or none, at an address. -/
def put (fs : FileSystem) (spot : Location) (child : Option Node) : FileSystem :=
  { fs with top := fs.top.set child spot }

/-- Makes a directory. Its parent must be there. -/
def makeDirectory (fs : FileSystem) (p : Path) : Except FileError FileSystem :=
  match fs.find false p with
  | .ok (.node ..) => .error .exists
  | .ok (.vacant dir name _) => .ok (fs.put (dir ++ [name]) (some .empty))
  | .error e => .error e

/-- Makes a directory where there may be one already. -/
def ensureDirectory (fs : FileSystem) (p : Path) : Except FileError FileSystem :=
  match fs.makeDirectory p with
  | .ok fs => .ok fs
  | .error e => if fs.isDirectory p then .ok fs else .error e

/-- Makes a directory together with the ones above it. What has been made before an error stays. The
number bounds how far up the search for a directory goes. -/
def makeDirectories : Nat → FileSystem → Path → FileSystem × Option FileError
  | _, fs, ⟨[]⟩ => (fs, none)
  | levels, fs, p =>
    match fs.makeDirectory p, levels, p.parent? with
    | .error .notFound, levels + 1, some above =>
      match makeDirectories levels fs above with
      | (fs, none) =>
        match fs.ensureDirectory p with
        | .ok fs => (fs, none)
        | .error e => (fs, some e)
      | failed => failed
    | .error e, _, _ => if fs.isDirectory p then (fs, none) else (fs, some e)
    | .ok fs, _, _ => (fs, none)

/-- Makes a directory and whatever is missing above it. -/
def createDirectories (fs : FileSystem) (p : Path) : FileSystem × Option FileError :=
  makeDirectories p.text.length fs p

/-! ## Files and links -/

/-- Writes a file, over the one that is there. -/
def write (fs : FileSystem) (p : Path) (bytes : List UInt8) : Except FileError FileSystem :=
  match fs.find true p with
  | .ok (.node spot (.file _)) => .ok (fs.put spot (some (.file bytes)))
  | .ok (.node _ (.directory _)) => .error .isDirectory
  | .ok (.node ..) => .ok fs
  | .ok (.vacant dir name false) => .ok (fs.put (dir ++ [name]) (some (.file bytes)))
  | .ok (.vacant _ _ true) => .error .isDirectory
  | .error e => .error e

/-- Makes a symbolic link. -/
def link (fs : FileSystem) (p : Path) (target : Text) : Except FileError FileSystem :=
  match fs.find false p with
  | .ok (.node ..) => .error .exists
  | .ok (.vacant dir name false) => .ok (fs.put (dir ++ [name]) (some (.link target)))
  | .ok (.vacant _ _ true) => .error .notFound
  | .error e => .error e

/-- Removes what a path leads to, a directory with all that is in it. Links are removed and not
followed. -/
def remove (fs : FileSystem) (p : Path) : Except FileError FileSystem :=
  match fs.find false p with
  | .ok (.node spot _) => .ok (fs.put spot none)
  | .ok (.vacant ..) => .error .notFound
  | .error e => .error e

/-- Whether the last stretch of a path is a dot or two dots. -/
def endsInDots (p : Path) : Bool :=
  let last := (p.text.reverse.dropWhile (· = '/')).takeWhile (· ≠ '/')
  last = ['.'] || last = ['.', '.']

/-- Moves the file at an address to where a path leads. With `clobber`, a file or link that is there
is replaced; without it, nothing is. -/
def rename (fs : FileSystem) (source : Location) (p : Path) (clobber : Bool) :
    Except FileError FileSystem :=
  let move (goal : Location) := (fs.put source none).put goal (fs.top.get? source)
  match fs.find false p with
  | .error .nulInPath => .error .invalidArgument
  | .error e => .error e
  | .ok (.vacant dir name false) => .ok (move (dir ++ [name]))
  | .ok (.vacant _ _ true) => .error .notDirectory
  | .ok (.node goal n) =>
    -- The order of the tests is the order in which the faults are reported.
    if !clobber then .error .exists
    else if endsInDots p then .error .busy
    else if p.text.getLast? = some '/' then .error .notDirectory
    else if n.isDirectory then .error .isDirectory
    else .ok (move goal)

end FileSystem

end Stencil
