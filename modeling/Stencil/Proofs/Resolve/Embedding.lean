import Mathlib
import Stencil.Proofs.Provider.Files
import Stencil.Proofs.Resolve.Isolation
import Stencil.Proofs.Template.Escaping
import Stencil.Proofs.Template.First
import Stencil.Proofs.Text.Utf8

/-!
# Files that are embedded

A reference to a file is compiled to the text of the file (`compile_file_reference`). The provider
of files accepts what the path leads to, since the extension that the key asks for is the one that
the file has, and the text of the file is read back from its bytes.
-/

namespace Stencil

namespace Embedded

/-- A file with a text that is not too long is embedded as it is. -/
theorem content_ofBytes_encode (p : Path) {content : Text}
    (hsize : Text.byteLength content ≤ truncateAbove) :
    (ofBytes p (Utf8.encode content)).content = content := by
  have hlength : ¬ truncateAbove < (Utf8.encode content).length := by
    rw [Utf8.length_encode]
    exact Nat.not_lt.2 hsize
  rw [ofBytes]
  simp only [if_neg hlength]
  exact Utf8.decodeLossy_of_decode? (Utf8.decode?_encode content)

end Embedded

namespace Resolver

/-- A reference to a file, by a path from the root that is no pattern, is settled to what the file
puts into a document. -/
theorem settled_of_file_reference {r : Resolver} {p : Placeholder} {path : Text}
    (hbody : p.body = .file ('/' :: path)) (hrelative : ¬ Path.isAbsolute ⟨path⟩)
    (hpattern : ¬ FileTree.isPattern path) {world : World} {bytes : List UInt8}
    (hfile : world.files.stat (r.root.join ⟨path⟩) = .ok (.file bytes)) :
    let file := Embedded.ofBytes (r.root.join ⟨path⟩) bytes
    r.Settled world p
      ⟨p.raw, some "file".toList, .discovered file.content file.warnings, none, 1⟩ := by
  intro file calls
  have hdiscover : FileTree.provider.discover (r.context world) 0 ('/' :: path)
      = .found [.path (r.root.join ⟨path⟩)] :=
    congrArg Discovery.ofExcept (FileTree.discover_path hpattern hrelative hfile)
  have hvalidate : FileTree.provider.validate (r.context world) (.path (r.root.join ⟨path⟩))
      ('/' :: path) = .accepted := FileTree.validate_path hrelative hfile
  have hload : Embedded.load (r.context world).world.files ⟨(r.root.join ⟨path⟩).text⟩
      = .ok file := by
    rw [Embedded.load, FileSystem.read, context, hfile]
  have hrender : FileTree.provider.render (.path (r.root.join ⟨path⟩))
      = .ok (r.root.join ⟨path⟩).text := rfl
  have hembeds : FileTree.provider.embeds = true := rfl
  have hselect : select FileTree.provider (r.context world)
      ⟨p.raw, "file".toList, '/' :: path, [], none⟩ (.path (r.root.join ⟨path⟩))
        = .discovered file.content file.warnings := by
    simp only [select, hvalidate, hrender, hembeds, if_true, hload]
  rw [result?, attempt, hbody]
  simp only [hdiscover, proceed, settle, choose, applyFilters, hselect]
  rfl

/-- A reference to a file, by a path from the root that is no pattern, is compiled to the text of
the file. -/
theorem compile_file_reference {r : Resolver} (hwords : r.words = []) {path content : Text}
    (hne : path ≠ []) (hrelative : ¬ Path.isAbsolute ⟨path⟩) (hesc : '\\' ∉ path)
    (hpattern : ¬ FileTree.isPattern path) {world : World}
    (hfile : world.files.stat (r.root.join ⟨path⟩) = .ok (.file (Utf8.encode content)))
    (hsize : Text.byteLength content ≤ Embedded.truncateAbove) (calls : Calls) :
    r.document? world calls (Token.braced ('/' :: Body.escapePath path)) = some content := by
  have hbody : (Placeholder.parse (Token.braced ('/' :: Body.escapePath path))).body
      = .file ('/' :: path) := by
    rw [Placeholder.parse, Placeholder.inner_braced, Body.parse_escapePath hne]
  have hcloses := Body.closes_escapePath (Body.escapable_of_not_mem hesc)
  rw [document?_token hwords hcloses (settled_of_file_reference hbody hrelative hpattern hfile)]
  exact congrArg some (Embedded.content_ofBytes_encode _ hsize)

/-- A resolver at the working directory. -/
def atWorkingDirectory : Resolver where
  registry := .base
  root := ⟨['.']⟩

/-- A world with these files in the working directory and nothing else. -/
def worldOf (entries : List (Text × Node)) : World :=
  ⟨⟨.directory entries, []⟩, ⟨[]⟩, ⟨0, 0, 0⟩⟩

/-- A path with closing braces and quotes. -/
def oddPath : Text :=
  "src/a\x7d\x7db's \".md".toList

/-- A world with a file under the odd path. -/
def oddWorld (bytes : List UInt8) : World :=
  worldOf [("src".toList, .directory [("a\x7d\x7db's \".md".toList, .file bytes)])]

/-- Closing braces and quotes in a name do not matter. -/
theorem compile_file_reference_braces :
    let world := oddWorld (Utf8.encode "text".toList)
    atWorkingDirectory.words = [] ∧ oddPath ≠ [] ∧ ¬ Path.isAbsolute ⟨oddPath⟩ ∧
      '\\' ∉ oddPath ∧ ¬ FileTree.isPattern oddPath ∧
      world.files.stat (atWorkingDirectory.root.join ⟨oddPath⟩)
        = .ok (.file (Utf8.encode "text".toList)) ∧
      Text.byteLength "text".toList ≤ Embedded.truncateAbove ∧
      atWorkingDirectory.document? world []
        "\x7b\x7b/src/a\\\x7d\\\x7db's \".md\x7d\x7d".toList = some "text".toList := by
  intro world
  have hne : oddPath ≠ [] := by decide
  have hrelative : ¬ Path.isAbsolute ⟨oddPath⟩ := by decide
  have hesc : '\\' ∉ oddPath := by decide
  have hpattern : ¬ FileTree.isPattern oddPath := by decide
  have hstat : ∀ bytes, (oddWorld bytes).files.stat (atWorkingDirectory.root.join ⟨oddPath⟩)
      = .ok (.file bytes) := by
    intro bytes
    cbv
  have hsize : Text.byteLength "text".toList ≤ Embedded.truncateAbove := by decide
  have htoken : Token.braced ('/' :: Body.escapePath oddPath)
      = "\x7b\x7b/src/a\\\x7d\\\x7db's \".md\x7d\x7d".toList := by decide
  rw [← htoken]
  exact ⟨rfl, hne, hrelative, hesc, hpattern, hstat _, hsize,
    compile_file_reference rfl hne hrelative hesc hpattern (hstat _) hsize []⟩

/-- A world with a file whose name is a pattern, and one with a name that the pattern matches. -/
def bracketsWorld (bytes : List UInt8) : World :=
  worldOf [("[x].md".toList, .file bytes), ("x.md".toList, .file (Utf8.encode ['b']))]

/-- A file whose name is a pattern makes way for one with a name that the pattern matches. -/
theorem not_compiled_to_named_file :
    ¬ ∀ (r : Resolver) (path content : Text) (world : World), r.words = [] → path ≠ [] →
      ¬ Path.isAbsolute ⟨path⟩ → '\\' ∉ path →
      world.files.stat (r.root.join ⟨path⟩) = .ok (.file (Utf8.encode content)) →
      Text.byteLength content ≤ Embedded.truncateAbove →
      r.document? world [] (Token.braced ('/' :: Body.escapePath path)) = some content := by
  intro hembeds
  have hstat : ∀ bytes, (bracketsWorld bytes).files.stat
      (atWorkingDirectory.root.join ⟨"[x].md".toList⟩) = .ok (.file bytes) := by
    intro bytes
    cbv
  have hnamed := hembeds atWorkingDirectory "[x].md".toList ['a'] _ rfl (by decide) (by decide)
    (by decide) (hstat _) (by decide)
  have hmatched : atWorkingDirectory.document? (bracketsWorld (Utf8.encode ['a'])) []
      (Token.braced ('/' :: Body.escapePath "[x].md".toList)) = some ['b'] := by cbv
  exact absurd (hnamed.symm.trans hmatched) (by decide)

end Resolver

end Stencil
