import Stencil.Proofs.Document.Naming
import Stencil.Proofs.Files.Making

/-!
# What a step of writing does

A document that is being written has at most one file: the temporary file, or the file at the path
that it has been written to. A step in the writing of a numbered document makes this file in a
vacant place, moves it to one, removes it, or leaves it where it is; apart from that, at most
directories are made. `step_relocates` says so for every stage, which is all that is needed of the
steps to reason about runs.
-/

namespace Stencil.Document

/-- The file of a document is at this place, if there is one: where the temporary file has been put,
or where the path leads that has been written. -/
def Placed (fs : FileSystem) (s : Stage) (place : Option Location) : Prop :=
  match s with
  | .claiming temp .. | .replacing temp | .discarding temp _ => place = some temp
  | .written path => ∃ dir name, fs.Leads path dir name ∧ place = some (dir ++ [name])
  | _ => place = none

/-- A stage in the writing of a numbered document, which replaces nothing. -/
def Stage.Numbered (s : Stage) : Prop :=
  ∀ temp, s ≠ replacing temp

variable {d : Document} {fs fs' : FileSystem}

/-- The file of a document stays where it is as long as directories and links are kept. -/
theorem Placed.mono {s : Stage} {place : Option Location} (h : Placed fs s place)
    (hcwd : fs'.cwd = fs.cwd) (hkeep : fs.top.KeepsWays fs'.top) : Placed fs' s place := by
  cases s with
  | written path =>
    obtain ⟨dir, name, hleads, hplace⟩ := h
    exact ⟨dir, name, hleads.mono hcwd hkeep, hplace⟩
  | _ => exact h

/-- The output directory is a directory. -/
theorem view_of_dirLocation (h : fs.Sound) {dir : Path} {spot : Location}
    (hdir : dirLocation fs dir = .ok spot) : fs.view spot = some .directory := by
  unfold dirLocation at hdir
  split at hdir
  · cases hdir
    exact h.cwd
  · split at hdir
    · cases hdir
      have hfound := FileSystem.find_fits ‹_›
      exact Node.view_of_get? hfound
    all_goals cases hdir

/-- The temporary file is put where there was nothing. -/
theorem stage_eq_ok (h : fs.Sound) {temp : Location} (hstage : d.stage fs = .ok (temp, fs')) :
    ∃ dir name, temp = dir ++ [name] ∧ fs.view dir = some .directory ∧
      fs.view (dir ++ [name]) = none ∧ fs' = fs.put temp (some (.file d.bytes)) := by
  unfold stage at hstage
  split at hstage
  · cases hstage
  · cases hstage
    have hdir := view_of_dirLocation h ‹_›
    refine ⟨_, _, rfl, hdir, ?_, rfl⟩
    obtain ⟨m, hm, hlabel⟩ := Option.map_eq_some_iff.1 hdir
    obtain ⟨es, rfl⟩ := Node.exists_directory_of_label hlabel
    rw [FileSystem.view, Node.view_child hm, hm, Node.child?]
    exact congrArg _ (Node.lookup_eq_none (freshName_not_mem _))

/-- A step in the writing of a numbered document takes the file of the document from its place to
another one, or leaves it there. -/
theorem step_relocates (hnumbered : d.settings.numbered) (h : fs.Sound) {s : Stage}
    (hs : s.Numbered) {place : Option Location} (hplace : Placed fs s place)
    (hfile : ∀ l ∈ place, fs.view l = some (.file d.bytes)) :
    ∃ place', Placed (d.step s fs).2 (d.step s fs).1 place' ∧
      fs.Relocates (d.step s fs).2 d.bytes place place' := by
  have hsame := (FileSystem.Grows.refl h).relocates hfile
  cases s with
  | start =>
    obtain rfl : place = none := hplace
    have hgrows := (FileSystem.grows_createDirectories h d.settings.dir).relocates hfile
    unfold step
    generalize fs.createDirectories d.settings.dir = made at hgrows
    obtain ⟨fs', error⟩ := made
    cases error with
    | none => exact ⟨none, by simp [hnumbered, Placed], hgrows⟩
    | some e => exact ⟨none, rfl, hgrows⟩
  | scanning =>
    obtain rfl : place = none := hplace
    unfold step
    simp only
    split
    · exact ⟨none, rfl, hsame⟩
    · exact ⟨none, rfl, hsame⟩
  | staging number =>
    -- The temporary file is the first one that the document has.
    obtain rfl : place = none := hplace
    unfold step
    simp only
    split
    · exact ⟨none, rfl, hsame⟩
    · obtain ⟨dir, name, rfl, hdir, hvacant, rfl⟩ := stage_eq_ok h ‹_›
      rw [hnumbered]
      exact ⟨_, rfl, (FileSystem.shifts_make h hdir hvacant d.bytes).relocates⟩
  | claiming temp number attempts =>
    -- Whatever the target has to say against it, the temporary file stays.
    obtain rfl : place = some temp := hplace
    cases attempts with
    | zero => exact ⟨_, rfl, hsame⟩
    | succ attempts =>
      unfold step
      simp only
      split
      · obtain ⟨dir, name, hleads, hvacant, rfl⟩ := FileSystem.leads_of_rename ‹_›
        have hmove := (FileSystem.shifts_move h (hfile temp rfl) hleads.route.view_dir
          hvacant).relocates
        exact ⟨_, ⟨dir, name, hleads.mono hmove.cwd (hmove.keepsWays hfile), rfl⟩, hmove⟩
      · split
        · exact ⟨_, rfl, hsame⟩
        · exact ⟨_, rfl, hsame⟩
      · exact ⟨_, rfl, hsame⟩
  | replacing temp => exact absurd rfl (hs temp)
  | discarding temp e =>
    obtain rfl : place = some temp := hplace
    exact ⟨none, rfl, (FileSystem.shifts_remove h (hfile temp rfl)).relocates⟩
  | written path => exact ⟨place, hplace, hsame⟩
  | failed e => exact ⟨place, hplace, hsame⟩

/-- Numbered documents stay numbered. -/
theorem numbered_step (hnumbered : d.settings.numbered) {s : Stage} (hs : s.Numbered)
    (fs : FileSystem) : (d.step s fs).1.Numbered := by
  intro temp
  cases s with
  | replacing temp => exact absurd rfl (hs temp)
  | claiming temp number attempts =>
    cases attempts with
    | zero => simp [step]
    | succ attempts =>
      unfold step
      simp only
      split <;> (try split) <;> simp
  | _ =>
    unfold step
    simp only
    try split
    all_goals simp [hnumbered]

/-- A claim whose target can be moved to is the end. -/
theorem step_claiming {temp : Location} {number attempts : Nat}
    (h : fs.rename temp (d.target number) false = .ok fs') :
    d.step (.claiming temp number (attempts + 1)) fs = (.written (d.target number), fs') := by
  rw [step, h]

/-! ## Runs -/

/-- What every step keeps holds at the stage at which a run comes to its result. -/
theorem exists_stage_run {motive : Stage → FileSystem → Prop}
    (hstep : ∀ s fs, motive s fs → motive (d.step s fs).1 (d.step s fs).2) {s : Stage}
    (h : motive s fs) :
    ∃ s', motive s' (d.run s fs).2 ∧ s'.result? = some (d.run s fs).1 := by
  fun_induction Document.run d s fs with
  | case1 s fs result hresult => exact ⟨s, h, hresult⟩
  | case2 s fs _ _ ih => exact ih (hstep s fs h)

/-- A run begins with a step as long as there is no result. -/
theorem run_of_pending {s : Stage} (h : s.result? = none) (fs : FileSystem) :
    d.run s fs = d.run (d.step s fs).1 (d.step s fs).2 := by
  rw [run.eq_def]
  split
  · rename_i hresult
    cases h.symm.trans hresult
  · rfl

/-- A run is over once there is a result. -/
theorem run_of_result {s : Stage} {result : Except OutputError Path} (h : s.result? = some result)
    (fs : FileSystem) : d.run s fs = (result, fs) := by
  rw [run.eq_def]
  split
  · rename_i hresult
    rw [Option.some.inj (h.symm.trans hresult)]
  · rename_i hresult
    cases h.symm.trans hresult

end Stencil.Document
