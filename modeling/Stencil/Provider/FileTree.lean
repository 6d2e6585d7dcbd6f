import Stencil.Data.Json
import Stencil.Filter.Path
import Stencil.Provider.Basic

/-!
# Files

The provider of files under the root directory. A key is a path or, if it has one of the characters
`*`, `?`, `[` and `{`, a pattern. A path is its own candidate, whether there is a file or not; a
pattern has every file as a candidate whose path from the root it matches, directories named `.git`
left out. Validation then tells whether the candidate is a file with the extension that the key asks
for.
-/

namespace Stencil.FileTree

/-- Whether a text has a character that makes it a pattern. -/
def isPattern (s : Text) : Bool :=
  s.any fun c => c = '*' || c = '?' || c = '[' || c = '\x7b'

/-- A key without the slashes at its start. -/
def relative (key : Text) : Text :=
  key.dropWhile (· = '/')

/-- The path that a key names under the root. If there is nothing, but the key is an absolute path
to something, it is that path. -/
def resolvePath (files : FileSystem) (root : Path) (key : Text) : Path :=
  let under := root.join ⟨relative key⟩
  let absolute : Path := ⟨key⟩
  if !files.isThere under && absolute.isAbsolute && files.isThere absolute then absolute else under

/-- The directory name that a walk passes over. -/
def ignored : Text :=
  ".git".toList

/-- The names on the way from a root to each regular file below it, in the order of the names. A
link is followed only if the root itself is one that leads to a directory. -/
def walk (files : FileSystem) (root : Path) : List Location :=
  match files.find false root with
  -- The walk begins behind a link that leads to a directory, and nowhere else.
  | .ok (.node _ (.link _)) =>
    match files.stat root with
    | .ok (.directory es) => (Node.directory es).files (· = ignored)
    | _ => []
  | .ok (.node _ n) => n.files (· = ignored)
  | _ => []

/-- The path from a root along names. -/
def descend (root : Path) (names : Location) : Path :=
  names.foldl (fun p name => p.join ⟨name⟩) root

/-- The files whose path from the root a pattern matches. -/
def glob (context : Context) (key : Text) : Except ProviderError (List Candidate) := do
  let pattern := relative key
  let parts ← (Glob.parse pattern).mapError (.pattern pattern)
  let found := (walk context.world.files context.root).filter fun names =>
    Glob.isMatch true parts (Text.join ['/'] names)
  return found.map fun names => .path (descend context.root names)

/-- The files that a pattern matches, or the path that a key names. -/
def discover (context : Context) (key : Text) : Except ProviderError (List Candidate) :=
  if isPattern key then glob context key
  else .ok [.path (resolvePath context.world.files context.root key)]

/-- The extension that a key asks for. -/
def expectedExtension? (key : Text) : Option Text :=
  match Path.extension? ⟨key⟩ with
  | some e => if e.isEmpty || isPattern e then none else some e
  | none => none

/-- Whether a candidate is the path of something other than a directory and has the extension that
the key asks for. -/
def validate (context : Context) (candidate : Candidate) (key : Text) : Validation :=
  match candidate with
  | .path p =>
    let shown := ((p.stripBase? context.root).getD p).text
    match context.world.files.stat p with
    | .error _ => .message ("File not found: ".toList ++ shown)
    | .ok n =>
      if n.isDirectory then .message ("Path is a directory, not a file: ".toList ++ shown)
      else
        match expectedExtension? key with
        | some e =>
          if PathFilter.hasExtension p e then .accepted
          else
            .message ("Expected a .".toList ++ e ++ " file but resolved ".toList ++ shown)
        | none => .accepted
  | _ => .rejected

/-- A path as it was written, and a text as it is. -/
def render : Candidate → Except ProviderError Text
  | .path p => .ok p.text
  | .text s => .ok s
  | .record v => .error (.unrenderable (Json.compact v))

/-- The provider of files. -/
def provider : Provider where
  description := "Embed files by path or glob pattern relative to the project root".toList
  filterNames := Provider.namesOf PathFilter.table
  filter? := Provider.ofTable PathFilter.table
  discover context _ key := .ofExcept (discover context key)
  validate
  render
  embeds := true

end Stencil.FileTree
