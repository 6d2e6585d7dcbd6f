import Stencil.Proofs.Files.Route

/-!
# Changes to a file system

What the operations change, as seen through `view`. A file system is `Sound` if its tree is
well-formed and its working directory is there; every change keeps it so. Making a directory lets a
file system grow (`grows_makeDirectory`): everything stays, and what is new is a directory.
Giving or taking an entry that is no directory is seen at its address alone (`view_put`).
-/

namespace Stencil.FileSystem

/-- The entries of each directory have different names, and there is a working directory. -/
structure Sound (fs : FileSystem) : Prop where
  wellFormed : fs.top.WellFormed
  cwd : fs.view fs.cwd = some .directory

variable {fs fs' fs'' : FileSystem} {dir : Location} {name : Text}

/-- The top of a sound file system is a directory. -/
theorem Sound.view_nil (h : fs.Sound) : fs.view [] = some .directory := by
  by_cases hnil : fs.view [] = some .directory
  · exact hnil
  · by_cases hcwd : fs.cwd = []
    · rw [← hcwd]
      exact h.cwd
    · have hnone : fs.view fs.cwd = none := Node.view_append (l := []) hnil hcwd
      rw [h.cwd] at hnone
      cases hnone

/-- Where there is something other than a directory, it is an entry of a directory. -/
theorem Sound.exists_entry (h : fs.Sound) {l : Location} {lab : Label} (hl : fs.view l = some lab)
    (hlab : lab ≠ .directory) : ∃ dir name, l = dir ++ [name] ∧ fs.view dir = some .directory := by
  rcases List.eq_nil_or_concat l with rfl | ⟨dir, name, hl'⟩
  · rw [h.view_nil] at hl
    exact absurd (Option.some.inj hl).symm hlab
  · rw [List.concat_eq_append] at hl'
    subst hl'
    exact ⟨dir, name, rfl, Node.view_of_append_singleton hl⟩

/-! ## Entries -/

/-- Where there is no directory, an entry that is made, exchanged or removed is seen at its address
alone. -/
theorem view_put (h : fs.Sound) (hdir : fs.view dir = some .directory)
    (hold : fs.view (dir ++ [name]) ≠ some .directory) {child : Option Node}
    (hchild : ∀ c ∈ child, c.IsLeaf) (l : Location) :
    (fs.put (dir ++ [name]) child).view l
      = if l = dir ++ [name] then child.map Node.label else fs.view l :=
  Node.view_set_leaf h.wellFormed hdir hold hchild l

/-- Such a change keeps a file system sound. -/
theorem Sound.put (h : fs.Sound) (hdir : fs.view dir = some .directory)
    (hold : fs.view (dir ++ [name]) ≠ some .directory) {child : Option Node}
    (hchild : ∀ c ∈ child, c.IsLeaf) : (fs.put (dir ++ [name]) child).Sound := by
  refine ⟨h.wellFormed.set (fun c hc => (hchild c hc).wellFormed) _, ?_⟩
  have hcwd : (fs.put (dir ++ [name]) child).cwd = fs.cwd := rfl
  -- The working directory is a directory, so that it is not what is changed.
  have hne : fs.cwd ≠ dir ++ [name] := fun heq => hold (heq ▸ h.cwd)
  rw [hcwd, view_put h hdir hold hchild, if_neg hne]
  exact h.cwd

/-! ## Directories -/

/-- From one file system to another, everything stays as it is, and what is new is a directory. -/
structure Grows (fs fs' : FileSystem) : Prop where
  sound : fs'.Sound
  cwd : fs'.cwd = fs.cwd
  kept : ∀ l lab, fs.view l = some lab → fs'.view l = some lab
  added : ∀ l lab, fs'.view l = some lab → fs.view l = some lab ∨ lab = .directory

/-- Nothing has changed. -/
theorem Grows.refl (h : fs.Sound) : fs.Grows fs :=
  ⟨h, rfl, fun _ _ => id, fun _ _ => .inl⟩

/-- A file system grows on. -/
theorem Grows.trans (h : fs.Grows fs') (h' : fs'.Grows fs'') : fs.Grows fs'' := by
  refine ⟨h'.sound, h'.cwd.trans h.cwd, fun l lab hl => h'.kept l lab (h.kept l lab hl), ?_⟩
  intro l lab hl
  rcases h'.added l lab hl with hl | hlab
  · exact h.added l lab hl
  · exact .inr hlab

/-- A directory in a vacant place lets a file system grow. -/
theorem Grows.put_empty (h : fs.Sound) (hdir : fs.view dir = some .directory)
    (hvacant : fs.view (dir ++ [name]) = none) :
    fs.Grows (fs.put (dir ++ [name]) (some .empty)) := by
  have hold : fs.view (dir ++ [name]) ≠ some .directory := by simp [hvacant]
  have hleaf : ∀ c ∈ some Node.empty, c.IsLeaf := fun c hc => Option.some.inj hc ▸ rfl
  have hview := view_put h hdir hold hleaf
  refine ⟨h.put hdir hold hleaf, rfl, ?_, ?_⟩
  · intro l lab hl
    rw [hview, if_neg, hl]
    rintro rfl
    rw [hvacant] at hl
    cases hl
  · intro l lab hl
    rw [hview] at hl
    split at hl
    · exact .inr (Option.some.inj hl).symm
    · exact .inl hl

/-- A new directory lets a file system grow. -/
theorem grows_makeDirectory (h : fs.Sound) {p : Path} (hmake : fs.makeDirectory p = .ok fs') :
    fs.Grows fs' := by
  unfold makeDirectory at hmake
  split at hmake
  · cases hmake
  · cases hmake
    obtain ⟨hdir, hvacant⟩ := find_fits ‹_›
    exact .put_empty h hdir hvacant
  · cases hmake

/-! ## Files -/

/-- A file that is moved without replacing anything goes to the vacant place where its path
leads. -/
theorem leads_of_rename {source : Location} {p : Path}
    (hrename : fs.rename source p false = .ok fs') :
    ∃ dir name, fs.Leads p dir name ∧ fs.view (dir ++ [name]) = none ∧
      fs' = (fs.put source none).put (dir ++ [name]) (fs.top.get? source) := by
  unfold rename at hrename
  simp only at hrename
  split at hrename
  · cases hrename
  · cases hrename
  · cases hrename
    obtain ⟨-, hvacant⟩ := find_fits ‹_›
    exact ⟨_, _, leads_of_find ‹_›, hvacant, rfl⟩
  · cases hrename
  · cases hrename

/-- A file is moved to the vacant place where its path leads. -/
theorem rename_of_leads {p : Path} (h : fs.Leads p dir name)
    (hvacant : fs.view (dir ++ [name]) = none) (source : Location) (clobber : Bool) :
    fs.rename source p clobber
      = .ok ((fs.put source none).put (dir ++ [name]) (fs.top.get? source)) := by
  rw [rename, find_of_vacant h hvacant]

/-- A file with these bytes goes from its place to another one, which was vacant, and nothing else
changes. No place stands for a file that is made or removed. -/
structure Shifts (fs fs' : FileSystem) (bytes : List UInt8) (source goal : Option Location) :
    Prop where
  sound : fs'.Sound
  cwd : fs'.cwd = fs.cwd
  vacant : ∀ l ∈ goal, fs.view l = none
  view : ∀ l, fs'.view l
    = if goal = some l then some (.file bytes) else if source = some l then none else fs.view l

/-- A file is made in a vacant place. -/
theorem shifts_make (h : fs.Sound) (hdir : fs.view dir = some .directory)
    (hvacant : fs.view (dir ++ [name]) = none) (bytes : List UInt8) :
    fs.Shifts (fs.put (dir ++ [name]) (some (.file bytes))) bytes none (some (dir ++ [name])) := by
  have hold : fs.view (dir ++ [name]) ≠ some .directory := by simp [hvacant]
  have hleaf : ∀ c ∈ some (Node.file bytes), c.IsLeaf := fun c hc => Option.some.inj hc ▸ rfl
  refine ⟨h.put hdir hold hleaf, rfl, fun l hl => Option.some.inj hl ▸ hvacant, fun l => ?_⟩
  rw [view_put h hdir hold hleaf]
  simp only [Option.some.injEq, eq_comm, reduceCtorEq, if_false]
  rfl

/-- A file is removed. -/
theorem shifts_remove (h : fs.Sound) {source : Location} {bytes : List UInt8}
    (hsource : fs.view source = some (.file bytes)) :
    fs.Shifts (fs.put source none) bytes (some source) none := by
  obtain ⟨dir, name, rfl, hdir⟩ := h.exists_entry hsource (by simp)
  have hold : fs.view (dir ++ [name]) ≠ some .directory := by simp [hsource]
  have hleaf : ∀ c ∈ (none : Option Node), c.IsLeaf := by simp
  refine ⟨h.put hdir hold hleaf, rfl, by simp, fun l => ?_⟩
  rw [view_put h hdir hold hleaf]
  simp only [Option.some.injEq, eq_comm, reduceCtorEq, if_false]
  rfl

/-- A file is moved to a vacant place. -/
theorem shifts_move (h : fs.Sound) {source : Location} {bytes : List UInt8}
    (hsource : fs.view source = some (.file bytes)) (hdir : fs.view dir = some .directory)
    (hvacant : fs.view (dir ++ [name]) = none) :
    fs.Shifts ((fs.put source none).put (dir ++ [name]) (fs.top.get? source)) bytes (some source)
      (some (dir ++ [name])) := by
  obtain ⟨m, hm, hlabel⟩ := Option.map_eq_some_iff.1 hsource
  obtain rfl : m = .file bytes := by
    cases m with
    | file b =>
      cases hlabel
      rfl
    | _ => cases hlabel
  -- The file is removed and then made again, which finds the goal as it was.
  have hremove := shifts_remove h hsource
  have hdir' : (fs.put source none).view dir = some .directory := by
    rw [hremove.view, if_neg (by simp), if_neg, hdir]
    rintro ⟨⟩
    rw [hsource] at hdir
    cases hdir
  have hvacant' : (fs.put source none).view (dir ++ [name]) = none := by
    rw [hremove.view, hvacant]
    simp
  have hmake := shifts_make hremove.sound hdir' hvacant' bytes
  rw [hm]
  refine ⟨hmake.sound, hmake.cwd.trans hremove.cwd, fun l hl => Option.some.inj hl ▸ hvacant, ?_⟩
  intro l
  rw [hmake.view, hremove.view]
  simp only [reduceCtorEq, if_false]

/-! ## One file among others -/

/-- There are new directories at most, and a file with these bytes stays in its place or goes to
another one, which was vacant. Everything else is as it was. -/
structure Relocates (fs fs' : FileSystem) (bytes : List UInt8) (source goal : Option Location) :
    Prop where
  sound : fs'.Sound
  cwd : fs'.cwd = fs.cwd
  kept : ∀ l lab, fs.view l = some lab → source ≠ some l → fs'.view l = some lab
  arrived : ∀ l ∈ goal, fs'.view l = some (.file bytes)
  vacant : goal = source ∨ ∀ l ∈ goal, fs.view l = none
  accounted : ∀ l lab, fs'.view l = some lab →
    goal = some l ∨ lab = .directory ∨ fs.view l = some lab ∧ source ≠ some l

/-- In a file system that grows, the file stays. -/
theorem Grows.relocates (h : fs.Grows fs') {bytes : List UInt8} {source : Option Location}
    (hsource : ∀ l ∈ source, fs.view l = some (.file bytes)) :
    fs.Relocates fs' bytes source source := by
  refine ⟨h.sound, h.cwd, fun l lab hl _ => h.kept l lab hl,
    fun l hl => h.kept l _ (hsource l hl), .inl rfl, fun l lab hl => ?_⟩
  by_cases hsame : source = some l
  · exact .inl hsame
  · rcases h.added l lab hl with hold | hlab
    · exact .inr (.inr ⟨hold, hsame⟩)
    · exact .inr (.inl hlab)

/-- The file goes from its place to another one. -/
theorem Shifts.relocates {bytes : List UInt8} {source goal : Option Location}
    (h : fs.Shifts fs' bytes source goal) : fs.Relocates fs' bytes source goal := by
  refine ⟨h.sound, h.cwd, ?_, ?_, .inr h.vacant, ?_⟩
  · intro l lab hl hsource
    have hgoal : goal ≠ some l := by
      rintro rfl
      rw [h.vacant l rfl] at hl
      cases hl
    rw [h.view, if_neg hgoal, if_neg hsource, hl]
  · intro l hl
    exact (h.view l).trans (if_pos hl)
  · intro l lab hl
    rw [h.view] at hl
    by_cases hgoal : goal = some l
    · exact .inl hgoal
    · rw [if_neg hgoal] at hl
      by_cases hsource : source = some l
      · rw [if_pos hsource] at hl
        cases hl
      · rw [if_neg hsource] at hl
        exact .inr (.inr ⟨hl, hsource⟩)

/-- Directories and links are among what is kept. -/
theorem Relocates.keepsWays {bytes : List UInt8} {source goal : Option Location}
    (h : fs.Relocates fs' bytes source goal)
    (hsource : ∀ l ∈ source, fs.view l = some (.file bytes)) : fs.top.KeepsWays fs'.top := by
  intro l lab hl hlab
  refine h.kept l lab hl ?_
  -- What is moved is a file.
  rintro rfl
  have hfile := (hsource l rfl).symm.trans hl
  cases hfile
  rcases hlab with hlab | ⟨target, hlab⟩ <;> cases hlab

/-- A path leads to the same place as long as directories and links are kept. -/
theorem Leads.mono {p : Path} (h : fs.Leads p dir name) (hcwd : fs'.cwd = fs.cwd)
    (hkeep : fs.top.KeepsWays fs'.top) : fs'.Leads p dir name :=
  ⟨h.no_nul, h.ne_nil, h.short, by rw [hcwd]; exact h.route.mono hkeep⟩

end Stencil.FileSystem
