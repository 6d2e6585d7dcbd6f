import Stencil.Proofs.Files.Names
import Stencil.Provider.FileTree

/-!
# Candidates that are files

What the provider of files discovers and what it accepts. A path that is no pattern is its own
candidate (`discover_path`), and a pattern has what the walk comes to (`discover_pattern`). A file
is accepted if it has the extension that the key asks for (`validate_file`), which a file under a
path from the root has (`validate_path`).
-/

namespace Stencil.FileTree

variable {context : Context} {path key : Text}

/-! ## Discovery -/

/-- A key behind a slash is what is behind it, if that is no absolute path. -/
theorem relative_slash (hrelative : ¬ Path.isAbsolute ⟨path⟩) : relative ('/' :: path) = path := by
  have hslash : relative ('/' :: path) = relative path := rfl
  rw [hslash, relative]
  cases path with
  | nil => rfl
  | cons c path =>
    have hc : ¬ c = '/' := by simpa [Path.isAbsolute] using hrelative
    rw [List.dropWhile_cons_of_neg (by simpa using hc)]

/-- A path that is no pattern and leads to something under the root is the one candidate. -/
theorem discover_path (hpattern : ¬ isPattern path) (hrelative : ¬ Path.isAbsolute ⟨path⟩)
    {n : Node} (hstat : context.world.files.stat (context.root.join ⟨path⟩) = .ok n) :
    discover context ('/' :: path) = .ok [.path (context.root.join ⟨path⟩)] := by
  have hkey : isPattern ('/' :: path) = false := by simpa [isPattern] using hpattern
  have hthere : context.world.files.isThere (context.root.join ⟨path⟩) = true := by
    rw [FileSystem.isThere, hstat]
    rfl
  rw [discover, if_neg (by simp [hkey]), resolvePath, relative_slash hrelative]
  simp [hthere]

/-- A pattern has what the walk comes to along the names that it matches. -/
theorem discover_pattern {parts : List Glob.Part} (hpattern : isPattern key)
    (hparts : Glob.parse (relative key) = .ok parts) :
    discover context key = .ok (((walk context.world.files context.root).filter fun names =>
      Glob.isMatch true parts (Text.join ['/'] names)).map
        fun names => .path (descend context.root names)) := by
  rw [discover, if_pos hpattern, glob, hparts]
  rfl

/-! ## Validation -/

/-- An extension that a key asks for is the one of the key. -/
theorem extension?_of_expected {e : Text} (h : expectedExtension? key = some e) :
    Path.extension? ⟨key⟩ = some e := by
  unfold expectedExtension? at h
  split at h
  · split at h
    · cases h
    · cases h
      assumption
  · cases h

/-- A file is accepted exactly if it has the extension that the key asks for. -/
theorem validate_file {p : Path} {bytes : List UInt8}
    (hstat : context.world.files.stat p = .ok (.file bytes)) (key : Text) :
    validate context (.path p) key = .accepted ↔
      ∀ e, expectedExtension? key = some e → PathFilter.hasExtension p e := by
  have hfile : (Node.file bytes).isDirectory = false := rfl
  unfold validate
  simp only [hstat, hfile, Bool.false_eq_true, if_false]
  cases expectedExtension? key with
  | none => simp
  | some e => by_cases he : PathFilter.hasExtension p e <;> simp [he]

/-- A file is accepted under a path from the root that leads to it. -/
theorem validate_path (hrelative : ¬ Path.isAbsolute ⟨path⟩) {bytes : List UInt8}
    (hstat : context.world.files.stat (context.root.join ⟨path⟩) = .ok (.file bytes)) :
    validate context (.path (context.root.join ⟨path⟩)) ('/' :: path) = .accepted := by
  refine (validate_file hstat _).2 fun e he => ?_
  have hextension : (context.root.join ⟨path⟩).extension? = some e :=
    Path.extension?_join hrelative (extension?_of_expected he)
  simp [PathFilter.hasExtension, hextension, PathFilter.sameIgnoringCase]

end Stencil.FileTree
