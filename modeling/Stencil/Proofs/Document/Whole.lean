import Mathlib
import Stencil.Document.Template
import Stencil.Proofs.Document.Steps
import Stencil.Proofs.Files.Replacing
import Stencil.Proofs.Text.Utf8

/-!
# Documents are written whole or not at all

The writing of one document, where any step may fail (`Disturbed`). Each stage says what there is in
the file system besides what was there at the start (`Comes.holds`): directories on the way to the
output directory, then the temporary file, and in the end the document at its path or nothing at
all. `write_all_or_nothing` reads off what this means for the files.
-/

namespace Stencil

namespace Document

/-! ## Steps that fail -/

/-- A step in the writing of a document fails. -/
inductive Disturbed (d : Document) : Stage → FileSystem → Stage → FileSystem → Prop
  /-- Some of the directories have been made. -/
  | directories {fs made : FileSystem} (hmade : fs.Made d.settings.dir made) (error : OutputError) :
      Disturbed d .start fs (.failed error) made
  | numbering {fs : FileSystem} (error : OutputError) : Disturbed d .scanning fs (.failed error) fs
  /-- The output directory has been read in part, and any number may have come out of it. -/
  | scanning {fs : FileSystem} {number : Nat} (hnumber : number < Numbering.limit) :
      Disturbed d .scanning fs (.staging number) fs
  | staging {fs : FileSystem} {number : Nat} (error : OutputError) :
      Disturbed d (.staging number) fs (.failed error) fs
  /-- The temporary file is there, with whatever has been written to it. -/
  | filling {fs fs' : FileSystem} {number : Nat} {temp : Location}
      (hstage : d.stage fs = .ok (temp, fs')) (written : List UInt8) (error : OutputError) :
      Disturbed d (.staging number) fs (.discarding temp error)
        (fs.put temp (some (.file written)))
  | claiming {fs : FileSystem} {temp : Location} {number attempts : Nat} (error : OutputError) :
      Disturbed d (.claiming temp number attempts) fs (.discarding temp error) fs
  | replacing {fs : FileSystem} {temp : Location} (error : OutputError) :
      Disturbed d (.replacing temp) fs (.discarding temp error) fs

/-- The writing of a document, begun in the file system `fs`, comes to a stage. Any of its steps may
have failed. -/
inductive Comes (d : Document) (fs : FileSystem) : Stage → FileSystem → Prop
  | start : Comes d fs .start fs
  | step {s : Stage} {fs' : FileSystem} (h : Comes d fs s fs') :
      Comes d fs (d.step s fs').1 (d.step s fs').2
  | disturbed {s s' : Stage} {fs' fs'' : FileSystem} (h : Comes d fs s fs')
      (hfails : d.Disturbed s fs' s' fs'') : Comes d fs s' fs''

variable {d : Document} {fs fs' : FileSystem}

/-- The writing goes on until it has come to a result. -/
theorem Comes.run {s : Stage} (h : d.Comes fs s fs') :
    ∃ s', d.Comes fs s' (d.run s fs').2 ∧ s'.result? = some (d.run s fs').1 :=
  exists_stage_run (fun _ _ => .step) h

/-! ## What there is at each stage -/

/-- What the writing of a document, begun in `fs`, has come to in `fs'`. -/
def Holds (d : Document) (fs : FileSystem) (s : Stage) (fs' : FileSystem) : Prop :=
  ∃ made : FileSystem, fs.Made d.settings.dir made ∧
    match s with
    | .start => fs = fs' ∧ made = fs'
    | .scanning | .staging _ => made = fs'
    | .claiming temp .. => made.Shifts fs' d.bytes none (some temp)
    | .replacing temp =>
      d.settings.numbered = false ∧ made.Shifts fs' d.bytes none (some temp)
    | .discarding temp _ => ∃ written, made.Shifts fs' written none (some temp)
    | .written path => ∃ dir name, made.Leads path dir name ∧
        made.Places fs' d.bytes (dir ++ [name]) ∧
        (d.settings.numbered → made.view (dir ++ [name]) = none)
    | .failed _ => ∀ l, fs'.view l = made.view l

/-- A step keeps what holds at each stage. -/
theorem Holds.step (h : fs.Sound) {s : Stage} (hs : d.Holds fs s fs') :
    d.Holds fs (d.step s fs').1 (d.step s fs').2 := by
  obtain ⟨made, hmade, hs⟩ := hs
  have hsound := (hmade.grows h).sound
  cases s with
  | start =>
    obtain ⟨rfl, rfl⟩ := hs
    have hcreate := FileSystem.made_createDirectories made d.settings.dir
    unfold Document.step
    generalize made.createDirectories d.settings.dir = created at hcreate
    obtain ⟨fs'', error⟩ := created
    cases error with
    | none =>
      refine ⟨fs'', hcreate, ?_⟩
      cases d.settings.numbered <;> rfl
    | some e => exact ⟨fs'', hcreate, fun _ => rfl⟩
  | scanning =>
    obtain rfl := hs
    unfold Document.step
    simp only
    split
    · exact ⟨made, hmade, rfl⟩
    · exact ⟨made, hmade, fun _ => rfl⟩
  | staging number =>
    obtain rfl := hs
    unfold Document.step
    simp only
    split
    · exact ⟨made, hmade, fun _ => rfl⟩
    · obtain ⟨dir, name, rfl, hdir, hvacant, rfl⟩ := stage_eq_ok hsound ‹_›
      have hshifts := FileSystem.shifts_make hsound hdir hvacant d.bytes
      refine ⟨made, hmade, ?_⟩
      by_cases hnumbered : d.settings.numbered
      · rw [if_pos hnumbered]
        exact hshifts
      · rw [if_neg hnumbered]
        exact ⟨by simpa using hnumbered, hshifts⟩
  | claiming temp number attempts =>
    cases attempts with
    | zero => exact ⟨made, hmade, d.bytes, hs⟩
    | succ attempts =>
      unfold Document.step
      simp only
      split
      · obtain ⟨dir, name, hleads, hplaces, hvacant⟩ := FileSystem.Shifts.places hs ‹_›
        exact ⟨made, hmade, dir, name, hleads, hplaces, fun _ => hvacant rfl⟩
      · split
        · exact ⟨made, hmade, hs⟩
        · exact ⟨made, hmade, d.bytes, hs⟩
      · exact ⟨made, hmade, d.bytes, hs⟩
  | replacing temp =>
    obtain ⟨hfixed, hs⟩ := hs
    unfold Document.step
    simp only
    split
    · obtain ⟨dir, name, hleads, hplaces, -⟩ := FileSystem.Shifts.places hs ‹_›
      exact ⟨made, hmade, dir, name, hleads, hplaces, by simp [hfixed]⟩
    · exact ⟨made, hmade, d.bytes, hs⟩
  | discarding temp e =>
    obtain ⟨written, hs⟩ := hs
    exact ⟨made, hmade, hs.remove.2.2⟩
  | written path => exact ⟨made, hmade, hs⟩
  | failed e => exact ⟨made, hmade, hs⟩

/-- So does a step that fails. -/
theorem Holds.disturbed (h : fs.Sound) {s s' : Stage} {fs'' : FileSystem} (hs : d.Holds fs s fs')
    (hfails : d.Disturbed s fs' s' fs'') : d.Holds fs s' fs'' := by
  obtain ⟨made, hmade, hs⟩ := hs
  have hsound := (hmade.grows h).sound
  cases hfails with
  | directories hsome error =>
    obtain ⟨rfl, -⟩ := hs
    exact ⟨fs'', hsome, fun _ => rfl⟩
  | numbering error =>
    obtain rfl := hs
    exact ⟨made, hmade, fun _ => rfl⟩
  | scanning hnumber => exact ⟨made, hmade, hs⟩
  | staging error =>
    obtain rfl := hs
    exact ⟨made, hmade, fun _ => rfl⟩
  | filling hstage written error =>
    obtain rfl := hs
    obtain ⟨dir, name, rfl, hdir, hvacant, -⟩ := stage_eq_ok hsound hstage
    exact ⟨made, hmade, written, FileSystem.shifts_make hsound hdir hvacant written⟩
  | claiming error => exact ⟨made, hmade, d.bytes, hs⟩
  | replacing error => exact ⟨made, hmade, d.bytes, hs.2⟩

/-- What holds at a stage holds whenever the writing comes to it. -/
theorem Comes.holds (h : fs.Sound) {s : Stage} (hs : d.Comes fs s fs') : d.Holds fs s fs' := by
  induction hs with
  | start => exact ⟨fs, .nothing fs, rfl, rfl⟩
  | step _ ih => exact ih.step h
  | disturbed _ hfails ih => exact ih.disturbed h hfails

end Document

/-! ## What has changed -/

/-- From `fs` to `fs'`, directories have been made on the way to `dir`, as they are in `made`, and
nothing else has changed, except for what is at `goal`. -/
structure FileSystem.ChangedAt (dir : Path) (goal : Option Location) (fs made fs' : FileSystem) :
    Prop where
  makes : fs.Made dir made
  rest : ∀ l, goal ≠ some l → fs'.view l = made.view l
  files : ∀ l lab, lab ≠ .directory → goal ≠ some l →
    (fs'.view l = some lab ↔ fs.view l = some lab)
  directories : ∀ l, fs.view l = some .directory → fs'.view l = some .directory

/-- If everything else is as it was once directories had been made, nothing else has changed. -/
theorem FileSystem.Made.changedAt {fs made fs' : FileSystem} {dir : Path} (h : fs.Made dir made)
    (hfs : fs.Sound) {goal : Option Location}
    (hgoal : ∀ l ∈ goal, made.view l ≠ some .directory)
    (hrest : ∀ l, goal ≠ some l → fs'.view l = made.view l) : ChangedAt dir goal fs made fs' := by
  have hgrows := h.grows hfs
  refine ⟨h, hrest, fun l lab hlab hl => ?_, fun l hl => ?_⟩
  · rw [hrest l hl]
    refine ⟨fun hmade => ?_, hgrows.kept l lab⟩
    exact (hgrows.added l lab hmade).resolve_right hlab
  · have hmade := hgrows.kept l _ hl
    rw [hrest l, hmade]
    exact fun heq => hgoal l heq hmade

namespace Resolver

/-- What compiling a template file may end in, whichever of its steps fail. -/
inductive MayEnd (r : Resolver) (world : World) (calls : Calls) (settings : OutputSettings)
    (template : Path) (name : Option Text) :
    Except CompileError (Compilation × Path) → FileSystem → Prop
  | unread (error : CompileError) : MayEnd r world calls settings template name (.error error)
      world.files
  | written {compilation : Compilation} {calls' : Calls} {path : Path} {files : FileSystem}
      (hcompile : r.compileTemplate world calls template = (some (.ok compilation), calls'))
      (h : Document.Comes ⟨settings, name.getD (documentName template), compilation.output⟩
        world.files (.written path) files) :
      MayEnd r world calls settings template name (.ok (compilation, path)) files
  | failed {compilation : Compilation} {calls' : Calls} {error : OutputError} {files : FileSystem}
      (hcompile : r.compileTemplate world calls template = (some (.ok compilation), calls'))
      (h : Document.Comes ⟨settings, name.getD (documentName template), compilation.output⟩
        world.files (.failed error) files) :
      MayEnd r world calls settings template name (.error (.output error)) files

/-- What compiling a template file ends in is among what it may end in. -/
theorem mayEnd_compileFile {r : Resolver} {world : World} {calls calls' : Calls}
    {settings : OutputSettings} {template : Path} {name : Option Text}
    {result : Except CompileError (Compilation × Path)} {files : FileSystem}
    (h : r.compileFile world calls settings template name = (some result, calls', files)) :
    r.MayEnd world calls settings template name result files := by
  unfold compileFile at h
  split at h
  · cases h
  · cases h
    exact .unread _
  · rename_i compilation calls'' hcompile
    -- The writing comes to the result that is returned.
    have hstart : Document.Comes
        ⟨settings, name.getD (documentName template), compilation.output⟩ world.files .start
        world.files := .start
    obtain ⟨s, hcomes, hresult⟩ := hstart.run
    simp only at h
    rw [Document.write] at h
    generalize Document.run _ .start world.files = ended at h hcomes hresult
    obtain ⟨result, files'⟩ := ended
    cases s with
    | written path =>
      cases hresult
      cases h
      exact .written hcompile hcomes
    | failed e =>
      cases hresult
      cases h
      exact .failed hcompile hcomes
    | _ => cases hresult

end Resolver

namespace Document

variable {fs fs' : FileSystem}

/-- A document that has been written. -/
theorem Holds.written {d : Document} (h : fs.Sound) {path : Path}
    (hs : d.Holds fs (.written path) fs') : ∃ made dir name,
      FileSystem.ChangedAt d.settings.dir (some (dir ++ [name])) fs made fs' ∧
        made.Leads path dir name ∧ fs'.view (dir ++ [name]) = some (.file d.bytes) ∧
        (fs'.read path = .ok d.bytes ∨ d.settings.numbered = false ∧
          (∃ target, fs.view (dir ++ [name]) = some (.link target)) ∧
            made.CrossesGoal path dir name) ∧
        (d.settings.numbered → fs.view (dir ++ [name]) = none ∧
          ∀ followLast spot n, fs.find followLast path ≠ .ok (.node spot n)) := by
  obtain ⟨made, hmade, dir, name, hleads, hplaces, hvacant⟩ := hs
  have hgrows := hmade.grows h
  have hread := hplaces.read_eq hgrows.sound hleads
  refine ⟨made, dir, name, hmade.changedAt h ?_ ?_, hleads, (hplaces.view _).trans (if_pos rfl),
    ?_, ?_⟩
  · exact fun l hl => Option.some.inj hl ▸ hplaces.old
  · exact fun l hl => (hplaces.view l).trans (if_neg fun heq => hl (congrArg some heq))
  · refine hread.imp_right fun ⟨⟨target, hlink⟩, hcrosses⟩ => ⟨?_, ⟨target, ?_⟩, hcrosses⟩
    · -- A numbered document replaces nothing.
      cases hnumbered : d.settings.numbered with
      | true => cases hlink.symm.trans (hvacant hnumbered)
      | false => rfl
    · exact (hgrows.added _ _ hlink).resolve_right (by simp)
  · intro hnumbered
    have hnone := hvacant hnumbered
    refine ⟨?_, fun followLast spot n hfind => ?_⟩
    · cases hview : fs.view (dir ++ [name]) with
      | none => rfl
      | some lab => cases hnone.symm.trans (hgrows.kept _ _ hview)
    · -- What the path came to at the start would still be there.
      obtain ⟨hfinds, hn⟩ := FileSystem.find_node_iff.1 hfind
      obtain ⟨m, hm, -⟩ := Option.map_eq_some_iff.1 (hgrows.kept _ _ (Node.view_of_get? hn))
      have hfind' := FileSystem.find_node_iff.2 ⟨hfinds.mono hgrows.cwd hgrows.kept, hm⟩
      cases hfind'.symm.trans (FileSystem.find_of_vacant hleads hnone followLast)

/-- A document that has not been written. -/
theorem Holds.failed {d : Document} (h : fs.Sound) {e : OutputError}
    (hs : d.Holds fs (.failed e) fs') :
    ∃ made, FileSystem.ChangedAt d.settings.dir none fs made fs' := by
  obtain ⟨made, hmade, hsame⟩ := hs
  exact ⟨made, hmade.changedAt h (by simp) fun l _ => hsame l⟩

/-- A document is written whole or not at all, whichever of the steps fail. If it is written, its
content is where the path leads, which was vacant if it is numbered, and besides directories on the
way nothing else has changed. The path reads as the content, unless the document has replaced a link
that the path goes over. If it is not written, no file has changed, and neither has one if compiling
a template file ends in an error. -/
theorem write_all_or_nothing (d : Document) (h : fs.Sound) :
    (∃ s, d.Comes fs s (d.write fs).2 ∧ s.result? = some (d.write fs).1) ∧
      (∀ path fs', d.Comes fs (.written path) fs' → ∃ made dir name,
        FileSystem.ChangedAt d.settings.dir (some (dir ++ [name])) fs made fs' ∧
          made.Leads path dir name ∧ fs'.view (dir ++ [name]) = some (.file d.bytes) ∧
          (fs'.read path = .ok d.bytes ∨ d.settings.numbered = false ∧
            (∃ target, fs.view (dir ++ [name]) = some (.link target)) ∧
              made.CrossesGoal path dir name) ∧
          (d.settings.numbered → fs.view (dir ++ [name]) = none ∧
            ∀ followLast spot n, fs.find followLast path ≠ .ok (.node spot n))) ∧
      d.bytes.length = d.size ∧
      (∀ e fs', d.Comes fs (.failed e) fs' →
        ∃ made, FileSystem.ChangedAt d.settings.dir none fs made fs') ∧
      ∀ (r : Resolver) (world : World) (calls : Calls) (settings : OutputSettings)
        (template : Path) (name : Option Text), world.files = fs →
          (∀ result calls' files,
            r.compileFile world calls settings template name = (some result, calls', files) →
              r.MayEnd world calls settings template name result files) ∧
          ∀ e files, r.MayEnd world calls settings template name (.error e) files →
            ∃ made, FileSystem.ChangedAt settings.dir none fs made files := by
  refine ⟨(Comes.start (d := d)).run, fun path fs' hcomes => (hcomes.holds h).written h,
    Utf8.length_encode d.content, fun e fs' hcomes => (hcomes.holds h).failed h, ?_⟩
  intro r world calls settings template name hfiles
  refine ⟨fun result calls' files hcompile => Resolver.mayEnd_compileFile hcompile, ?_⟩
  intro e files hends
  subst hfiles
  cases hends with
  | unread =>
    exact ⟨world.files, FileSystem.Made.changedAt (.nothing _) h (by simp) fun _ _ => rfl⟩
  | failed hcompile hcomes => exact (hcomes.holds h).failed h

/-- A note. -/
def note : Document :=
  ⟨{}, "note".toList, "first".toList⟩

/-- A note in an empty tree gets the first number. -/
theorem write_all_or_nothing_note :
    FileSystem.Sound ⟨.empty, []⟩ ∧
      (note.write ⟨.empty, []⟩).1 = .ok ⟨"prompts/out/001-note.md".toList⟩ ∧
      (note.write ⟨.empty, []⟩).2.read ⟨"prompts/out/001-note.md".toList⟩
        = .ok (Utf8.encode "first".toList) := by
  have hsound : FileSystem.Sound ⟨.empty, []⟩ := ⟨Node.IsLeaf.wellFormed rfl, rfl⟩
  have hresult : (note.write ⟨.empty, []⟩).1 = .ok ⟨"prompts/out/001-note.md".toList⟩ := by cbv
  obtain ⟨⟨s, hcomes, hs⟩, hwritten, -⟩ := write_all_or_nothing note hsound
  rw [hresult] at hs
  cases s with
  | written path =>
    cases hs
    obtain ⟨made, dir, name, -, -, -, hread, -⟩ := hwritten _ _ hcomes
    refine ⟨hsound, hresult, hread.resolve_right fun hfixed => ?_⟩
    cases hfixed.1
  | _ => cases hs

/-- A directory in which a link leads to another directory. -/
def linkedTree : FileSystem :=
  ⟨.directory [("out".toList, .directory
    [("sub".toList, .empty), ("l.md".toList, .link "sub".toList)])], []⟩

/-- A document whose path goes over this link to its own name. -/
def linkedDocument : Document :=
  ⟨{ dir := ⟨"out/l.md/..".toList⟩, numbered := false }, "l".toList, "x".toList⟩

/-- A document whose path goes over the link that it replaces is not read back under its path. -/
theorem not_read_over_replaced_link :
    ¬ ∀ (d : Document) (fs fs' : FileSystem) (path : Path), fs.Sound →
      d.write fs = (.ok path, fs') → fs'.read path = .ok d.bytes := by
  intro hread
  have hsound : linkedTree.Sound := by
    refine ⟨Node.wellFormed_of_entries (by simp) ?_, rfl⟩
    simp only [List.mem_singleton, forall_eq]
    refine Node.wellFormed_of_entries (by decide) ?_
    simp only [List.mem_cons, List.not_mem_nil, or_false, forall_eq_or_imp, forall_eq]
    exact ⟨Node.IsLeaf.wellFormed rfl, Node.IsLeaf.wellFormed rfl⟩
  have hresult : (linkedDocument.write linkedTree).1 = .ok ⟨"out/l.md/../l.md".toList⟩ := by cbv
  have hfail : (linkedDocument.write linkedTree).2.read ⟨"out/l.md/../l.md".toList⟩
      = .error .notDirectory := by cbv
  have hok := hread linkedDocument linkedTree _ _ hsound (Prod.ext hresult rfl)
  cases hfail.symm.trans hok

end Document

end Stencil
