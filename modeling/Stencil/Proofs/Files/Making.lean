import Stencil.Proofs.Files.Changes

/-!
# Directories that are made on the way

Making the directory at a path makes directories where the path and the paths above it lead, one
after the other (`made_createDirectories`), and keeps what it has made if it fails on the way. What
has been `Made` lets a file system grow (`Made.grows`).
-/

namespace Stencil

/-- The second path is the first, or lies above it. -/
inductive Path.Above : Path → Path → Prop
  | self (p : Path) : Above p p
  | parent {p above q : Path} (hparent : p.parent? = some above) (h : Above above q) : Above p q

namespace FileSystem

/-- Directories have been made one after the other, each where a path leads that is `p` or lies
above it. -/
inductive Made (p : Path) : FileSystem → FileSystem → Prop
  | nothing (fs : FileSystem) : Made p fs fs
  | another {fs fs' fs'' : FileSystem} {q : Path} (h : Made p fs fs') (hq : p.Above q)
      (hmake : fs'.makeDirectory q = .ok fs'') : Made p fs fs''

variable {fs fs' : FileSystem} {p : Path}

/-- What is on the way to a path above is on the way to the path. -/
theorem Made.of_above {above : Path} (h : Made above fs fs') (hparent : p.parent? = some above) :
    Made p fs fs' := by
  induction h with
  | nothing => exact .nothing _
  | another _ hq hmake ih => exact .another ih (.parent hparent hq) hmake

/-- Making a directory and those above it makes directories on the way, even if it fails. -/
theorem made_makeDirectories (levels : Nat) (fs : FileSystem) (p : Path) :
    Made p fs (fs.makeDirectories levels p).1 := by
  fun_induction makeDirectories levels fs p with
  | case2 fs p _ levels above habove _ fs₁ hmake fs₂ hensure ih =>
    have hmade : Made p fs fs₁ := by
      rw [hmake] at ih
      exact ih.of_above habove
    -- The directory itself is made, or is there already.
    unfold ensureDirectory at hensure
    split at hensure
    · cases hensure
      exact .another hmade (.self p) ‹_›
    · split at hensure
      · cases hensure
        exact hmade
      · cases hensure
  | case3 fs p _ levels above habove _ fs₁ hmake e hensure ih =>
    rw [hmake] at ih
    exact ih.of_above habove
  | case4 _ _ _ _ _ habove _ _ ih => exact ih.of_above habove
  | case7 levels fs p _ fs₁ hmake => exact .another (.nothing fs) (.self p) hmake
  | _ => exact .nothing _

/-- Making a directory and whatever is missing above it makes directories on the way. -/
theorem made_createDirectories (fs : FileSystem) (p : Path) :
    Made p fs (fs.createDirectories p).1 :=
  made_makeDirectories _ fs p

/-- A file system grows by what is made. -/
theorem Made.grows (h : Made p fs fs') (hfs : fs.Sound) : fs.Grows fs' := by
  induction h with
  | nothing => exact .refl hfs
  | another _ _ hmake ih => exact ih.trans (grows_makeDirectory ih.sound hmake)

/-- Making a directory and whatever is missing above it lets a file system grow, even if it fails on
the way. -/
theorem grows_createDirectories (h : fs.Sound) (p : Path) :
    fs.Grows (fs.createDirectories p).1 :=
  (made_createDirectories fs p).grows h

end FileSystem

end Stencil
