import Mathlib
import Stencil.Proofs.Document.Steps

/-!
# Documents that are written at the same time

A pool takes the steps of several documents one after the other, in any order. While all documents
are numbered, the invariant is `Intact`: each document has its file to itself, everything that was
there before is still there, and there are no other files. A step keeps it (`intact_step`), since it
takes the file of one document to a vacant place at most, so that it holds after every run
(`intact_run`). `concurrent_writes` reads off what this means in the end.
-/

namespace Stencil

/-- Documents with how far each has come, and the files that they share. -/
structure Pool where
  files : FileSystem
  writers : List (Document × Document.Stage)

namespace Pool

/-- No document has taken a step yet. -/
def start (files : FileSystem) (docs : List Document) : Pool :=
  ⟨files, docs.map (·, .start)⟩

/-- The document with an index takes its next step. -/
def step (pool : Pool) (i : Nat) : Pool :=
  match pool.writers[i]? with
  | none => pool
  | some (d, s) => ⟨(d.step s pool.files).2, pool.writers.set i (d, (d.step s pool.files).1)⟩

/-- Documents take their steps in the given order. -/
def run (pool : Pool) (schedule : List Nat) : Pool :=
  schedule.foldl step pool

/-- A run goes on where another one has ended. -/
theorem run_append (pool : Pool) (schedule schedule' : List Nat) :
    pool.run (schedule ++ schedule') = (pool.run schedule).run schedule' :=
  List.foldl_append

/-- All documents have been written or have failed. -/
def Finished (pool : Pool) : Prop :=
  ∀ w ∈ pool.writers, w.2.result?.isSome

/-- The documents stay the same. -/
theorem docs_step (pool : Pool) (i : Nat) :
    (pool.step i).writers.map Prod.fst = pool.writers.map Prod.fst := by
  unfold step
  split
  · rfl
  · rename_i d s h
    have hd : (pool.writers.map Prod.fst)[i]? = some d := by rw [List.getElem?_map, h]; rfl
    obtain ⟨hi, hget⟩ := List.getElem?_eq_some_iff.1 hd
    rw [List.map_set, ← hget, List.set_getElem_self]

/-- The documents stay the same throughout a run. -/
theorem docs_run (pool : Pool) (schedule : List Nat) :
    (pool.run schedule).writers.map Prod.fst = pool.writers.map Prod.fst := by
  induction schedule generalizing pool with
  | nil => rfl
  | cons i schedule ih => exact (ih (pool.step i)).trans (docs_step pool i)

/-- The documents of a run are those that it was started with. -/
theorem docs_run_start (fs : FileSystem) (docs : List Document) (schedule : List Nat) :
    ((start fs docs).run schedule).writers.map Prod.fst = docs := by
  rw [docs_run, start, List.map_map]
  exact List.map_id docs

/-- A writer is known by its document and its stage. -/
theorem getElem?_writers {pool : Pool} {i : Nat} {d : Document} {s : Document.Stage}
    (hd : (pool.writers.map Prod.fst)[i]? = some d)
    (hs : (pool.writers.map Prod.snd)[i]? = some s) : pool.writers[i]? = some (d, s) := by
  rw [List.getElem?_map] at hd hs
  obtain ⟨w, hw, rfl⟩ := Option.map_eq_some_iff.1 hd
  rw [hw] at hs ⊢
  cases hs
  rfl

/-! ## The invariant -/

/-- Each document has its file to itself, if it has one, everything that was there in `fs` is still
there, and there are no other files. `place` tells where the file of each document is. -/
structure Intact (fs : FileSystem) (pool : Pool) (place : Nat → Option Location) : Prop where
  sound : pool.files.Sound
  numbered : ∀ (i : Nat) d s, pool.writers[i]? = some (d, s) → d.settings.numbered ∧ s.Numbered
  kept : ∀ l lab, fs.view l = some lab → pool.files.view l = some lab
  placed : ∀ (i : Nat) d s, pool.writers[i]? = some (d, s) → Document.Placed pool.files s (place i)
  own : ∀ (i : Nat) l, place i = some l → ∃ d s, pool.writers[i]? = some (d, s) ∧
    pool.files.view l = some (.file d.bytes) ∧ fs.view l = none
  apart : ∀ (i j : Nat) l, place i = some l → place j = some l → i = j
  accounted : ∀ l lab, pool.files.view l = some lab →
    fs.view l = some lab ∨ lab = .directory ∨ ∃ i, place i = some l

variable {fs : FileSystem} {pool : Pool} {place : Nat → Option Location}

/-- Before the first step, no document has a file. -/
theorem intact_start (h : fs.Sound) {docs : List Document}
    (hnumbered : ∀ d ∈ docs, d.settings.numbered) :
    Intact fs (start fs docs) fun _ => none := by
  have hwriter : ∀ (i : Nat) d s, (start fs docs).writers[i]? = some (d, s) →
      d ∈ docs ∧ s = .start := by
    intro i d s hget
    rw [start, List.getElem?_map, Option.map_eq_some_iff] at hget
    obtain ⟨d', hd', heq⟩ := hget
    cases heq
    exact ⟨List.mem_of_getElem? hd', rfl⟩
  refine ⟨h, ?_, fun _ _ hl => hl, ?_, by simp, by simp, fun _ _ hl => .inl hl⟩
  · intro i d s hget
    obtain ⟨hd, rfl⟩ := hwriter i d s hget
    exact ⟨hnumbered d hd, by simp [Document.Stage.Numbered]⟩
  · intro i d s hget
    obtain ⟨-, rfl⟩ := hwriter i d s hget
    rfl

/-- The file of a document holds its bytes. -/
theorem Intact.file (h : Intact fs pool place) {i : Nat} {d : Document} {s : Document.Stage}
    (hget : pool.writers[i]? = some (d, s)) :
    ∀ l ∈ place i, pool.files.view l = some (.file d.bytes) := by
  intro l hl
  obtain ⟨e, t, hget', hview, -⟩ := h.own i l hl
  rw [hget] at hget'
  cases hget'
  exact hview

/-- What is found among the writers once one of them has come to another stage. -/
theorem getElem?_set_writer {writers : List (Document × Document.Stage)} {i : Nat}
    {w w' : Document × Document.Stage} (hget : writers[i]? = some w) (j : Nat) :
    (writers.set i w')[j]? = if i = j then some w' else writers[j]? := by
  have hi := (List.getElem?_eq_some_iff.1 hget).1
  rw [List.getElem?_set]
  simp [hi]

/-- The invariant stays true if the file of one document goes to another place, or stays. -/
theorem Intact.advance (h : Intact fs pool place) {i : Nat} {d : Document} {s s' : Document.Stage}
    (hget : pool.writers[i]? = some (d, s)) (hd : d.settings.numbered) (hs' : s'.Numbered)
    {files : FileSystem} {goal : Option Location} (hplaced : Document.Placed files s' goal)
    (hmove : pool.files.Relocates files d.bytes (place i) goal) :
    Intact fs ⟨files, pool.writers.set i (d, s')⟩ (Function.update place i goal) := by
  have hself : (pool.writers.set i (d, s'))[i]? = some (d, s') := by
    rw [getElem?_set_writer hget, if_pos rfl]
  have hother : ∀ j, j ≠ i → (pool.writers.set i (d, s'))[j]? = pool.writers[j]? := by
    intro j hj
    rw [getElem?_set_writer hget, if_neg hj.symm]
  -- Where the file goes, there was nothing, or the file itself.
  have hvacant : ∀ l ∈ goal, fs.view l = none ∧ ∀ j, j ≠ i → place j ≠ some l := by
    intro l hl
    rcases hmove.vacant with rfl | hvacant
    · obtain ⟨-, -, -, -, hnone⟩ := h.own i l hl
      exact ⟨hnone, fun j hj hplace => hj (h.apart j i l hplace hl)⟩
    · constructor
      · cases hview : fs.view l with
        | none => rfl
        | some lab =>
          rw [← h.kept l lab hview]
          exact hvacant l hl
      · intro j _ hplace
        obtain ⟨e, -, -, hview, -⟩ := h.own j l hplace
        rw [hvacant l hl] at hview
        cases hview
  refine ⟨hmove.sound, ?_, ?_, ?_, ?_, ?_, ?_⟩
  · -- All documents are numbered.
    intro j e t hj
    by_cases hji : j = i
    · subst hji
      rw [hself] at hj
      cases hj
      exact ⟨hd, hs'⟩
    · exact h.numbered j e t (hother j hji ▸ hj)
  · -- What was there before is not the file of a document.
    intro l lab hl
    refine hmove.kept l lab (h.kept l lab hl) fun hplace => ?_
    obtain ⟨-, -, -, -, hnone⟩ := h.own i l hplace
    rw [hl] at hnone
    cases hnone
  · -- The paths of the other documents lead where they did.
    intro j e t hj
    by_cases hji : j = i
    · subst hji
      rw [hself] at hj
      cases hj
      rwa [Function.update_self]
    · rw [Function.update_of_ne hji]
      exact (h.placed j e t (hother j hji ▸ hj)).mono hmove.cwd (hmove.keepsWays (h.file hget))
  · -- Each file holds the bytes of its document.
    intro j l hl
    by_cases hji : j = i
    · subst hji
      rw [Function.update_self] at hl
      exact ⟨d, s', hself, hmove.arrived l hl, (hvacant l hl).1⟩
    · rw [Function.update_of_ne hji] at hl
      obtain ⟨e, t, hj, hview, hnone⟩ := h.own j l hl
      refine ⟨e, t, (hother j hji).trans hj, hmove.kept l _ hview fun hplace => ?_, hnone⟩
      exact hji (h.apart j i l hl hplace)
  · -- No two documents have one file.
    intro j k l hj hk
    by_cases hji : j = i <;> by_cases hki : k = i
    · rw [hji, hki]
    · subst hji
      rw [Function.update_self] at hj
      rw [Function.update_of_ne hki] at hk
      exact absurd hk ((hvacant l hj).2 k hki)
    · subst hki
      rw [Function.update_self] at hk
      rw [Function.update_of_ne hji] at hj
      exact absurd hj ((hvacant l hk).2 j hji)
    · rw [Function.update_of_ne hji] at hj
      rw [Function.update_of_ne hki] at hk
      exact h.apart j k l hj hk
  · -- There are no other files.
    intro l lab hl
    rcases hmove.accounted l lab hl with hgoal | hlab | ⟨hold, hplace⟩
    · exact .inr (.inr ⟨i, by rw [Function.update_self, hgoal]⟩)
    · exact .inr (.inl hlab)
    · rcases h.accounted l lab hold with hfs | hlab | ⟨j, hj⟩
      · exact .inl hfs
      · exact .inr (.inl hlab)
      · have hji : j ≠ i := by
          rintro rfl
          exact hplace hj
        exact .inr (.inr ⟨j, by rw [Function.update_of_ne hji, hj]⟩)

/-- A step leaves the invariant true. -/
theorem intact_step (h : Intact fs pool place) (i : Nat) :
    ∃ place', Intact fs (pool.step i) place' := by
  cases hget : pool.writers[i]? with
  | none =>
    have hstep : pool.step i = pool := by rw [step, hget]
    rw [hstep]
    exact ⟨place, h⟩
  | some w =>
    obtain ⟨d, s⟩ := w
    have hstep : pool.step i
        = ⟨(d.step s pool.files).2, pool.writers.set i (d, (d.step s pool.files).1)⟩ := by
      rw [step, hget]
    obtain ⟨hd, hs⟩ := h.numbered i d s hget
    obtain ⟨goal, hplaced, hmove⟩ :=
      Document.step_relocates hd h.sound hs (h.placed i d s hget) (h.file hget)
    have hnumbered := Document.numbered_step hd hs pool.files
    rw [hstep]
    generalize d.step s pool.files = next at hplaced hmove hnumbered
    obtain ⟨s', files⟩ := next
    exact ⟨_, h.advance hget hd hnumbered hplaced hmove⟩

/-- The invariant holds after every run. -/
theorem intact_run (h : Intact fs pool place) (schedule : List Nat) :
    ∃ place', Intact fs (pool.run schedule) place' := by
  induction schedule generalizing pool place with
  | nil => exact ⟨place, h⟩
  | cons i schedule ih =>
    obtain ⟨place', h'⟩ := intact_step h i
    exact ih h'

/-! ## The end -/

/-- The path that a document has been written to leads to its file. -/
theorem Intact.find_written (h : Intact fs pool place) {i : Nat} {d : Document} {path : Path}
    (hget : pool.writers[i]? = some (d, .written path)) :
    ∃ l, place i = some l ∧ pool.files.find true path = .ok (.node l (.file d.bytes)) := by
  obtain ⟨dir, name, hleads, hplace⟩ := h.placed i d _ hget
  exact ⟨_, hplace, FileSystem.find_of_file hleads (h.file hget _ hplace) true⟩

/-- Different documents are written to different paths. -/
theorem Intact.written_ne (h : Intact fs pool place) {i j : Nat} (hij : i ≠ j) {d e : Document}
    {p q : Path} (hp : pool.writers[i]? = some (d, .written p))
    (hq : pool.writers[j]? = some (e, .written q)) : p ≠ q := by
  rintro rfl
  -- One path leads to one place, and no place has the files of two documents.
  obtain ⟨l, hl, hfind⟩ := h.find_written hp
  obtain ⟨l', hl', hfind'⟩ := h.find_written hq
  rw [hfind] at hfind'
  injection hfind' with hnode
  injection hnode with hsame
  exact hij (h.apart i j l hl (hsame ▸ hl'))

/-- Every file that was not there before is that of a document that has not failed. -/
theorem Intact.exists_writer (h : Intact fs pool place) {l : Location} {lab : Label}
    (hl : pool.files.view l = some lab) (hnew : fs.view l ≠ some lab) (hlab : lab ≠ .directory) :
    ∃ (i : Nat) (d : Document) (s : Document.Stage), pool.writers[i]? = some (d, s) ∧
      lab = .file d.bytes ∧ Document.Placed pool.files s (some l) := by
  obtain ⟨i, hi⟩ := ((h.accounted l lab hl).resolve_left hnew).resolve_left hlab
  obtain ⟨d, s, hget, hview, -⟩ := h.own i l hi
  rw [hl] at hview
  exact ⟨i, d, s, hget, Option.some.inj hview, hi ▸ h.placed i d s hget⟩

/-- Each step brings the end nearer until it is reached. -/
theorem remaining_step_le (d : Document) (s : Document.Stage) (fs : FileSystem) :
    (d.step s fs).1.remaining ≤ s.remaining - 1 := by
  cases hresult : s.result? with
  | none =>
    have hlt := d.remaining_step_lt s fs hresult
    omega
  | some result =>
    cases s with
    | written path => exact Nat.le_refl 0
    | failed e => exact Nat.le_refl 0
    | _ => cases hresult

/-- What a step does to one of the documents. -/
theorem getElem?_step {i : Nat} {w : Document × Document.Stage}
    (hget : pool.writers[i]? = some w) (j : Nat) :
    (pool.step j).writers[i]?
      = some (if j = i then (w.1, (w.1.step w.2 pool.files).1) else w) := by
  by_cases hji : j = i
  · subst hji
    rw [step, hget]
    simp only
    rw [getElem?_set_writer hget, if_pos rfl]
    simp
  · rw [if_neg hji, step]
    split
    · exact hget
    · rw [getElem?_set_writer ‹_›, if_neg hji, hget]

/-- Each step of a document brings its end nearer, whatever the others do. -/
theorem remaining_run {i : Nat} {w : Document × Document.Stage} (schedule : List Nat)
    (hget : pool.writers[i]? = some w) :
    ∃ w', (pool.run schedule).writers[i]? = some w' ∧
      w'.2.remaining ≤ w.2.remaining - schedule.count i := by
  induction schedule generalizing pool w with
  | nil => exact ⟨w, hget, by simp⟩
  | cons j schedule ih =>
    obtain ⟨w', hget', hle⟩ := ih (getElem?_step hget j)
    refine ⟨w', hget', ?_⟩
    rw [List.count_cons]
    -- Steps of other documents neither count nor change the stage of this one.
    by_cases hji : j = i
    · have hstep := remaining_step_le w.1 w.2 pool.files
      rw [if_pos hji] at hle
      simp only [hji, BEq.rfl, if_true] at hle ⊢
      omega
    · rw [if_neg hji] at hle
      simpa [hji] using hle

/-- Once each document has taken as many steps as there are, all have come to an end. -/
theorem finished_run {docs : List Document} {schedule : List Nat}
    (h : ∀ i < docs.length, Document.Stage.start.remaining ≤ schedule.count i) :
    ((start fs docs).run schedule).Finished := by
  intro w hw
  obtain ⟨i, hi⟩ := List.mem_iff_getElem?.1 hw
  have hd : docs[i]? = some w.1 := by
    rw [← docs_run_start fs docs schedule, List.getElem?_map, hi]
    rfl
  have hstart : (start fs docs).writers[i]? = some (w.1, .start) := by
    rw [start, List.getElem?_map, hd]
    rfl
  obtain ⟨w', hw', hle⟩ := remaining_run schedule hstart
  rw [hi] at hw'
  cases hw'
  -- No steps are left, which is so at the two ends alone.
  have hcount := h i (List.getElem?_eq_some_iff.1 hd).1
  have hzero : w.2.remaining = 0 := by
    simp only at hle
    omega
  cases hs : w.2 with
  | written path => rfl
  | failed e => rfl
  | _ => simp [hs, Document.Stage.remaining, Document.maxAttempts] at hzero

/-- Numbered documents that are written at the same time, whatever the order of their steps:

* Each path that is returned holds the content of its document.
* Different documents are written to different paths.
* What was there before is as it was.
* Every other file is that of a document that has not failed: the temporary file of one that is
  still on its way, or the one that its path leads to.
* Once each document has taken as many steps as it needs, all have come to an end, and every new
  file is one that the path of a document leads to. -/
theorem concurrent_writes (h : fs.Sound) {docs : List Document}
    (hnumbered : ∀ d ∈ docs, d.settings.numbered) (schedule : List Nat) :
    let pool := (start fs docs).run schedule
    pool.writers.map Prod.fst = docs ∧
      (∀ (i : Nat) d path, pool.writers[i]? = some (d, .written path) →
        pool.files.read path = .ok d.bytes) ∧
      (∀ (i j : Nat) d e p q, i ≠ j → pool.writers[i]? = some (d, .written p) →
        pool.writers[j]? = some (e, .written q) → p ≠ q) ∧
      (∀ l lab, fs.view l = some lab → pool.files.view l = some lab) ∧
      (∀ l lab, pool.files.view l = some lab → fs.view l ≠ some lab → lab ≠ .directory →
        ∃ (i : Nat) (d : Document) (s : Document.Stage), pool.writers[i]? = some (d, s) ∧
          lab = .file d.bytes ∧ Document.Placed pool.files s (some l)) ∧
      ((∀ i < docs.length, Document.Stage.start.remaining ≤ schedule.count i) →
        pool.Finished ∧ ∀ l lab, pool.files.view l = some lab → fs.view l ≠ some lab →
          lab ≠ .directory → ∃ (i : Nat) (d : Document) (path : Path),
            pool.writers[i]? = some (d, .written path) ∧
              pool.files.find true path = .ok (.node l (.file d.bytes))) := by
  intro pool
  obtain ⟨place, hintact⟩ := intact_run (intact_start h hnumbered) schedule
  refine ⟨docs_run_start fs docs schedule, ?_, ?_, hintact.kept, ?_, ?_⟩
  · intro i d path hget
    obtain ⟨dir, name, hleads, hplace⟩ := hintact.placed i d _ hget
    exact FileSystem.read_of_file hleads (hintact.file hget _ hplace)
  · exact fun i j d e p q hij hp hq => hintact.written_ne hij hp hq
  · exact fun l lab hl hnew hlab => hintact.exists_writer hl hnew hlab
  · intro hcount
    have hfinished : pool.Finished := finished_run hcount
    refine ⟨hfinished, fun l lab hl hnew hlab => ?_⟩
    obtain ⟨i, d, s, hget, rfl, hplaced⟩ := hintact.exists_writer hl hnew hlab
    -- The file is at the end of a path, since no temporary file is left.
    have hend := hfinished _ (List.mem_of_getElem? hget)
    cases s with
    | written path =>
      obtain ⟨dir, name, hleads, hplace⟩ := hplaced
      cases hplace
      exact ⟨i, d, path, hget, FileSystem.find_of_file hleads hl true⟩
    | failed e => cases hplaced
    | _ => cases hend

/-- Two documents with one name. -/
def notes : List Document :=
  [⟨{}, "note".toList, "first".toList⟩, ⟨{}, "note".toList, "second".toList⟩]

/-- An empty tree with its top as the working directory is sound. -/
theorem sound_empty : FileSystem.Sound ⟨.empty, []⟩ :=
  ⟨Node.IsLeaf.wellFormed rfl, rfl⟩

/-- Two notes claim one number, and the second one to come moves on to the next number. -/
theorem concurrent_writes_notes :
    FileSystem.Sound ⟨.empty, []⟩ ∧ (∀ d ∈ notes, d.settings.numbered) ∧
      let pool := (start ⟨.empty, []⟩ notes).run [0, 1, 0, 1, 0, 1, 1, 0, 0]
      pool.files.read ⟨"prompts/out/001-note.md".toList⟩ = .ok (Utf8.encode "second".toList) ∧
        pool.files.read ⟨"prompts/out/002-note.md".toList⟩ = .ok (Utf8.encode "first".toList) := by
  have hnumbered : ∀ d ∈ notes, d.settings.numbered := by simp [notes]
  have hstages : ((start ⟨.empty, []⟩ notes).run [0, 1, 0, 1, 0, 1, 1, 0, 0]).writers
      = [(⟨{}, "note".toList, "first".toList⟩, .written ⟨"prompts/out/002-note.md".toList⟩),
        (⟨{}, "note".toList, "second".toList⟩, .written ⟨"prompts/out/001-note.md".toList⟩)] := by
    cbv
  obtain ⟨-, hread, -⟩ :=
    concurrent_writes sound_empty hnumbered [0, 1, 0, 1, 0, 1, 1, 0, 0]
  refine ⟨sound_empty, hnumbered, ?_, ?_⟩
  · exact hread 1 ⟨{}, "note".toList, "second".toList⟩ _ (by rw [hstages]; rfl)
  · exact hread 0 ⟨{}, "note".toList, "first".toList⟩ _ (by rw [hstages]; rfl)

end Pool

end Stencil
