import Stencil.Proofs.Files.Changes
import Stencil.Proofs.Files.Reach
import Stencil.Proofs.Text.Split

/-!
# Files that are replaced

A file that is moved to where a path leads takes the place of what was there, which may have been
another file, or a symbolic link (`leads_of_replace`). The path then leads to the file, as long as
it did not go over the link that has been replaced (`Places.read_eq`).
-/

namespace Stencil

namespace FileSystem

variable {fs made fs' : FileSystem} {p : Path} {dir : Location} {name : Text}

/-- A path that is found to end at a node leads there if its last stretch is a name. -/
theorem leads_of_find_node {goal : Location} {n : Node} (h : fs.find false p = .ok (.node goal n))
    (hdots : ¬ endsInDots p) (hslash : p.text.getLast? ≠ some '/') :
    ∃ dir name, goal = dir ++ [name] ∧ fs.Leads p dir name := by
  obtain ⟨⟨hnul, hne, hshort, hreaches⟩, -⟩ := find_node_iff.1 h
  -- The last stretch is not empty since the last character is no slash.
  obtain ⟨before, c, htext⟩ := (List.eq_nil_or_concat p.text).resolve_left hne
  rw [List.concat_eq_append] at htext
  have hc : c ≠ '/' := by
    rintro rfl
    exact hslash (by rw [htext, List.getLast?_concat])
  have hrev : p.text.reverse = c :: before.reverse := by
    rw [htext, List.reverse_append, List.reverse_singleton, List.singleton_append]
  have hlast : (Text.splitOn '/' p.text).getLast? = some _ := Text.getLast?_splitOn p.text
  generalize hword : (p.text.reverse.takeWhile (· ≠ '/')).reverse = word at hlast
  have hword_ne : word ≠ [] := by
    rw [← hword]
    simp [hrev, hc]
  rw [List.reverse_eq_iff] at hword
  have hdots' : ¬ (word.reverse = ['.'] ∨ word.reverse = ['.', '.']) := by
    rw [← hword]
    simpa [endsInDots, hrev, hc] using hdots
  obtain ⟨dir, hgoal, hroute⟩ := hreaches.route hlast
    (fun hidle => hidle.elim hword_ne fun heq => hdots' (.inl (congrArg List.reverse heq)))
    (fun heq => hdots' (.inr (congrArg List.reverse heq)))
  exact ⟨dir, word, hgoal, hnul, hne, hshort, hroute⟩

/-- A file that is moved goes to where its path leads. It replaces no directory, and nothing at all
unless it is told to. -/
theorem leads_of_replace {source : Location} {clobber : Bool}
    (hrename : fs.rename source p clobber = .ok fs') :
    ∃ dir name, fs.Leads p dir name ∧ fs.view (dir ++ [name]) ≠ some .directory ∧
      (clobber = false → fs.view (dir ++ [name]) = none) ∧
      fs' = (fs.put source none).put (dir ++ [name]) (fs.top.get? source) := by
  cases clobber with
  | false =>
    obtain ⟨dir, name, hleads, hvacant, hfs'⟩ := leads_of_rename hrename
    exact ⟨dir, name, hleads, by simp [hvacant], fun _ => hvacant, hfs'⟩
  | true =>
    unfold rename at hrename
    simp only [Bool.not_true, Bool.false_eq_true, if_false] at hrename
    split at hrename
    · cases hrename
    · cases hrename
    · cases hrename
      obtain ⟨-, hvacant⟩ := find_fits ‹_›
      exact ⟨_, _, leads_of_find ‹_›, by simp [view, hvacant], by simp, rfl⟩
    · cases hrename
    · rename_i goal n hfind
      split at hrename
      · cases hrename
      · split at hrename
        · cases hrename
        · split at hrename
          · cases hrename
          · cases hrename
            obtain ⟨dir, name, rfl, hleads⟩ := leads_of_find_node hfind ‹_› ‹_›
            refine ⟨dir, name, hleads, fun hdir => ?_, by simp, rfl⟩
            have hfits : fs.top.get? (dir ++ [name]) = some n := find_fits hfind
            have hlabel := (Node.view_of_get? hfits).symm.trans hdir
            obtain ⟨es, rfl⟩ := Node.exists_directory_of_label (Option.some.inj hlabel)
            exact ‹¬ (Node.directory es).isDirectory = true› rfl

/-! ## The file in its place -/

/-- A file with these bytes is put in a place where there is no directory, and nothing else
changes. -/
structure Places (fs fs' : FileSystem) (bytes : List UInt8) (goal : Location) : Prop where
  sound : fs'.Sound
  cwd : fs'.cwd = fs.cwd
  old : fs.view goal ≠ some .directory
  view : ∀ l, fs'.view l = if goal = l then some (.file bytes) else fs.view l

/-- Apart from the place of a new file, everything is as it was. -/
theorem Shifts.view_of_ne {bytes : List UInt8} {temp : Location}
    (h : made.Shifts fs bytes none (some temp)) {l : Location} (hl : temp ≠ l) :
    fs.view l = made.view l := by
  rw [h.view, if_neg (by simpa using hl), if_neg (by simp)]

/-- The new file is there. -/
theorem Shifts.get?_new {bytes : List UInt8} {temp : Location}
    (h : made.Shifts fs bytes none (some temp)) : fs.top.get? temp = some (.file bytes) := by
  obtain ⟨m, hm, hlabel⟩ := Option.map_eq_some_iff.1 ((h.view temp).trans (if_pos rfl))
  cases m with
  | file b =>
    cases hlabel
    exact hm
  | _ => cases hlabel

/-- No path goes over the new file, since it is no directory and no link. -/
theorem Shifts.keepsWays_back {bytes : List UInt8} {temp : Location}
    (h : made.Shifts fs bytes none (some temp)) : fs.top.KeepsWays made.top := by
  intro l lab hl hlab
  have hne : temp ≠ l := by
    rintro rfl
    cases (Node.view_of_get? h.get?_new).symm.trans hl
    rcases hlab with hlab | ⟨target, hlab⟩ <;> cases hlab
  exact (h.view_of_ne hne).symm.trans hl

/-- Once a new file is removed, everything is as it was. -/
theorem Shifts.remove {bytes : List UInt8} {temp : Location}
    (h : made.Shifts fs bytes none (some temp)) :
    (fs.put temp none).Sound ∧ (fs.put temp none).cwd = made.cwd ∧
      ∀ l, (fs.put temp none).view l = made.view l := by
  have hremove := shifts_remove h.sound (Node.view_of_get? h.get?_new)
  refine ⟨hremove.sound, hremove.cwd.trans h.cwd, fun l => ?_⟩
  rw [hremove.view, if_neg (by simp)]
  by_cases hl : temp = l
  · subst hl
    rw [if_pos rfl, h.vacant temp rfl]
  · rw [if_neg (by simpa using hl), h.view_of_ne hl]

/-- A new file that is moved has been put where its path leads. -/
theorem Shifts.places {bytes : List UInt8} {temp : Location} {clobber : Bool}
    (h : made.Shifts fs bytes none (some temp)) (hrename : fs.rename temp p clobber = .ok fs') :
    ∃ dir name, made.Leads p dir name ∧ made.Places fs' bytes (dir ++ [name]) ∧
      (clobber = false → made.view (dir ++ [name]) = none) := by
  obtain ⟨dir, name, hleads, hold, hvacant, rfl⟩ := leads_of_replace hrename
  obtain ⟨hsound, hcwd, hback⟩ := h.remove
  have hleads' := hleads.mono h.cwd.symm h.keepsWays_back
  have hold' : made.view (dir ++ [name]) ≠ some .directory := by
    intro hdir
    have hne : temp ≠ dir ++ [name] := by
      rintro rfl
      cases (h.vacant _ rfl).symm.trans hdir
    exact hold ((h.view_of_ne hne).trans hdir)
  have hvacant' : clobber = false → made.view (dir ++ [name]) = none := by
    intro hclobber
    have hne : temp ≠ dir ++ [name] := by
      rintro rfl
      cases (Node.view_of_get? h.get?_new).symm.trans (hvacant hclobber)
    exact (h.view_of_ne hne).symm.trans (hvacant hclobber)
  -- The file is removed and then put into its new place.
  have hdir : (fs.put temp none).view dir = some .directory :=
    (hback dir).trans hleads'.route.view_dir
  have hclear : (fs.put temp none).view (dir ++ [name]) ≠ some .directory := by
    rw [hback]
    exact hold'
  have hleaf : ∀ c ∈ some (Node.file bytes), c.IsLeaf := fun c hc => Option.some.inj hc ▸ rfl
  rw [h.get?_new]
  refine ⟨dir, name, hleads', ⟨hsound.put hdir hclear hleaf, hcwd, hold', fun l => ?_⟩, hvacant'⟩
  rw [view_put hsound hdir hclear hleaf, hback]
  simp only [eq_comm]
  rfl

/-- The path leads to the entry over the entry itself: without it, the path no longer leads
there. -/
def CrossesGoal (fs : FileSystem) (p : Path) (dir : Location) (name : Text) : Prop :=
  ¬ (fs.put (dir ++ [name]) none).Leads p dir name

/-- A file that has been put where a path leads is read back under this path, unless it has replaced
a link that the path goes over. -/
theorem Places.read_eq (h : fs.Sound) (hleads : fs.Leads p dir name) {bytes : List UInt8}
    (hplaces : fs.Places fs' bytes (dir ++ [name])) :
    fs'.read p = .ok bytes ∨
      (∃ target, fs.view (dir ++ [name]) = some (.link target)) ∧ fs.CrossesGoal p dir name := by
  have hfile : fs'.view (dir ++ [name]) = some (.file bytes) :=
    (hplaces.view _).trans (if_pos rfl)
  by_cases hcrosses : fs.CrossesGoal p dir name
  · by_cases hlink : ∃ target, fs.view (dir ++ [name]) = some (.link target)
    · exact .inr ⟨hlink, hcrosses⟩
    · refine .inl (read_of_file (hleads.mono hplaces.cwd fun l lab hl hlab => ?_) hfile)
      have hne : dir ++ [name] ≠ l := by
        rintro rfl
        rcases hlab with rfl | ⟨target, rfl⟩
        · exact hplaces.old hl
        · exact hlink ⟨target, hl⟩
      exact (hplaces.view l).trans ((if_neg hne).trans hl)
  · -- The file takes a place that is not on the way.
    have hcleared : (fs.put (dir ++ [name]) none).Leads p dir name := not_not.1 hcrosses
    have hleaf : ∀ c ∈ (none : Option Node), c.IsLeaf := by simp
    have hview := view_put h hleads.route.view_dir hplaces.old hleaf
    refine .inl (read_of_file (hcleared.mono hplaces.cwd fun l lab hl _ => ?_) hfile)
    have hl' := (hview l).symm.trans hl
    split at hl'
    · cases hl'
    · exact (hplaces.view l).trans ((if_neg (Ne.symm ‹_›)).trans hl')

end FileSystem

end Stencil
