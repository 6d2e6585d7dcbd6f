import Stencil.Text.Basic

/-!
# File trees

A node of a file tree is a regular file, a device that is read as empty, a directory or a symbolic
link. Nodes are addressed by the names on the way down from the top. `get?` reads the node at an
address and `set` replaces, adds or removes it.
-/

namespace Stencil

/-- A node of a file tree. The entries of a directory have different names. -/
inductive Node
  | file (bytes : List UInt8)
  | device
  | directory (entries : List (Text × Node))
  | link (target : Text)

/-- The names on the way from the top of a tree to a node. -/
abbrev Location := List Text

namespace Node

/-- An empty directory. -/
def empty : Node :=
  .directory []

/-- Whether the node is a directory. -/
def isDirectory : Node → Bool
  | .directory _ => true
  | _ => false

/-- The entries of a directory; a node of another kind has none. -/
def entries : Node → List (Text × Node)
  | .directory es => es
  | _ => []

/-- The entry of a directory. -/
def child? (name : Text) (n : Node) : Option Node :=
  n.entries.lookup name

/-- Gives a directory entry a node, or removes the entry. -/
def setEntry (name : Text) (child : Option Node) : List (Text × Node) → List (Text × Node)
  | [] => (child.map (name, ·)).toList
  | (other, node) :: rest =>
    if other = name then (child.map (name, ·)).toList ++ rest
    else (other, node) :: setEntry name child rest

/-- The node at an address. -/
def get? : Location → Node → Option Node
  | [], n => some n
  | name :: rest, n => (n.child? name).bind (get? rest)

/-- Gives the address a node, or removes what is there. Nothing changes if the way down is not
there. -/
def set (child : Option Node) : Location → Node → Node
  | [], n => child.getD n
  | [name], n =>
    match n with
    | .directory es => .directory (setEntry name child es)
    | n => n
  | name :: rest, n =>
    match n with
    | .directory es =>
      match es.lookup name with
      | some below => .directory (setEntry name (some (set child rest below)) es)
      | none => n
    | n => n

mutual

/-- The addresses of the regular files of a tree that are in no directory with a name that is
passed over. Entries are visited in the order of their names. -/
def files (skip : Text → Bool) : Node → List Location
  | .file _ => [[]]
  | .device => []
  | .link _ => []
  | .directory es =>
    ((filesOfEntries skip es).mergeSort fun a b => Text.le a.1 b.1).flatMap fun (name, below) =>
      below.map (name :: ·)

/-- For each entry of a directory, the addresses of the files in it. -/
def filesOfEntries (skip : Text → Bool) : List (Text × Node) → List (Text × List Location)
  | [] => []
  | (name, node) :: rest =>
    if node.isDirectory && skip name then filesOfEntries skip rest
    else (name, files skip node) :: filesOfEntries skip rest

end

end Node

end Stencil
