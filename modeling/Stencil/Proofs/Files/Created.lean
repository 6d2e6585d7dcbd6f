import Stencil.Proofs.Files.Entries
import Stencil.Proofs.Files.Making

/-!
# Directories that have been made

Making a directory and those above it leaves one to which the path comes, unless it ends in an error
(`opens_of_createDirectories`), and changes nothing if there is one already
(`createDirectories_of_opens`).
-/

namespace Stencil

/-! ## A directory in a vacant place -/

namespace Reaches

variable {top top' : Node} {goal spot : Location} {links : Nat}

/-- Slashes at the end do not lead on. -/
theorem idle_segments {segments : List Text} (hgoal : top.view goal = some .directory)
    (h : segments.all List.isEmpty) : Reaches top true goal links goal segments := by
  induction segments with
  | nil => exact .here hgoal
  | cons segment rest ih =>
    rw [List.all_cons, Bool.and_eq_true, List.isEmpty_iff] at h
    exact .idle hgoal (.inl h.1) (ih h.2)

/-- Stretches that are followed to a vacant place come to the directory that is made there. -/
theorem of_follows_vacant {dir : Location} {name : Text} {slash : Bool} {segments : List Text}
    (h : Follows top false (.vacant dir name slash) links spot segments)
    (hkeep : ∀ l lab, top.view l = some lab → top'.view l = some lab)
    (hnew : top'.view (dir ++ [name]) = some .directory) :
    Reaches top' true (dir ++ [name]) links spot segments := by
  induction h with
  | here _ ht => cases ht
  | idle hspot hidle _ ih => exact .idle (hkeep _ _ hspot) hidle ih
  | up hspot _ ih => exact .up (hkeep _ _ hspot) ih
  | vacant hspot hname _ hrest ht =>
    cases ht
    exact .down (hkeep _ _ hspot) hname hnew (by simp) (idle_segments hnew hrest)
  | last _ _ _ _ ht => cases ht
  | link hspot hname hlink _ _ ih =>
    exact .link (hkeep _ _ hspot) hname (hkeep _ _ hlink) (.inr rfl) ih
  | down hspot hname hdown hlink _ ih =>
    exact .down (hkeep _ _ hspot) hname (hkeep _ _ hdown) hlink ih

end Reaches

namespace FileSystem

variable {fs fs' : FileSystem} {p : Path} {spot : Location} {es : List (Text × Node)}

/-- A path comes to the directory that is made at it. -/
theorem opens_of_makeDirectory (h : fs.Sound) (hmake : fs.makeDirectory p = .ok fs') :
    ∃ spot es, fs'.Opens p spot es := by
  have hgrows := grows_makeDirectory h hmake
  unfold makeDirectory at hmake
  split at hmake
  · cases hmake
  · cases hmake
    rename_i dir name slash hfind
    obtain ⟨hdir, hvacant⟩ := find_fits hfind
    have hnew : (fs.put (dir ++ [name]) (some .empty)).view (dir ++ [name])
        = some .directory := by
      have hold : fs.view (dir ++ [name]) ≠ some .directory := by simp [view, hvacant]
      have hleaf : ∀ c ∈ some Node.empty, c.IsLeaf := fun c hc => Option.some.inj hc ▸ rfl
      rw [view_put h hdir hold hleaf, if_pos rfl]
      rfl
    obtain ⟨hnul, hne, hshort, hfollow⟩ := find_eq_ok_iff.1 hfind
    have hfinds : (fs.put (dir ++ [name]) (some .empty)).Finds true p (dir ++ [name]) :=
      ⟨hnul, hne, hshort, .of_follows_vacant (.of_follow hfollow) hgrows.kept hnew⟩
    exact ⟨_, hfinds.opens hnew⟩
  · cases hmake

/-- Making a directory and those above it leaves one to which the path comes, unless it ends in an
error. -/
theorem opens_of_makeDirectories {levels : Nat} (h : fs.Sound) (hp : p.text ≠ [])
    (hmake : fs.makeDirectories levels p = (fs', none)) : ∃ spot es, fs'.Opens p spot es := by
  fun_induction makeDirectories levels fs p with
  | case1 => exact absurd rfl hp
  | case2 fs p _ levels above habove hmakeone fs₁ hmake₁ fs₂ hensure ih =>
    cases hmake
    have hmade := made_makeDirectories levels fs above
    rw [hmake₁] at hmade
    unfold ensureDirectory at hensure
    split at hensure
    · cases hensure
      exact opens_of_makeDirectory (hmade.grows h).sound ‹_›
    · split at hensure
      · cases hensure
        exact isDirectory_iff.1 ‹_›
      · cases hensure
  | case3 => cases hmake
  | case4 _ _ _ _ _ _ _ hfailed => exact absurd hmake (hfailed fs')
  | case5 =>
    cases hmake
    exact isDirectory_iff.1 ‹_›
  | case6 => cases hmake
  | case7 =>
    cases hmake
    exact opens_of_makeDirectory h ‹_›

/-- Making a directory and whatever is missing above it leaves one to which the path comes, unless
it ends in an error. -/
theorem opens_of_createDirectories (h : fs.Sound) (hp : p.text ≠ [])
    (hmake : fs.createDirectories p = (fs', none)) : ∃ spot es, fs'.Opens p spot es :=
  opens_of_makeDirectories h hp hmake

/-- A directory that is there is not made again. -/
theorem makeDirectory_of_opens (h : fs.Opens p spot es) : fs.makeDirectory p = .error .exists := by
  obtain ⟨goal, hreaches⟩ := h.finds.reaches.unfollowed
  obtain ⟨n, hfollow⟩ := hreaches.follow_eq
  have hfind : fs.find false p = .ok (.node goal n) :=
    find_eq_ok_iff.2 ⟨h.finds.no_nul, h.finds.ne_nil, h.finds.short, hfollow⟩
  rw [makeDirectory, hfind]

/-- Nothing changes if there is a directory already. -/
theorem createDirectories_of_opens (h : fs.Opens p spot es) :
    fs.createDirectories p = (fs, none) := by
  obtain ⟨c, t, htext⟩ := List.exists_cons_of_ne_nil h.finds.ne_nil
  obtain ⟨text⟩ := p
  obtain rfl : text = c :: t := htext
  rw [createDirectories, makeDirectories.eq_def]
  simp only [makeDirectory_of_opens h, isDirectory_iff.2 ⟨spot, es, h⟩, if_true]

end FileSystem

end Stencil
