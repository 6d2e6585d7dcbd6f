import Stencil.Proofs.Document.Numbers
import Stencil.Proofs.Document.Steps
import Stencil.Proofs.Files.Created
import Stencil.Proofs.Files.Replacing

/-!
# Numbers above everything in the directory

The number that a document gets when no other one is written at the same time. `Seeks` says of each
stage what the number that is looked for has to do with the names that were in the output directory
when it was read: it comes next among them (`Numbering.Next`), and stays so as long as the file
names with smaller numbers are taken. `Seeks.step` says that a step keeps this, so that it holds
when the writing is over (`write_of_created`).
-/

open Stencil.Numbering

namespace Stencil.Document

variable {d : Document} {fs fs' made : FileSystem} {spot : Location} {es : List (Text × Node)}

/-! ## Names of files -/

/-- A numbered name is a single stretch of a path. -/
theorem leadsDown_numberedName {extension name : Text} (hextension : '/' ∉ extension)
    (hname : '/' ∉ name) (number : Nat) : LeadsDown (numberedName extension number name) := by
  have hslash := slash_not_mem_numberedName hextension hname number
  obtain ⟨c, t, heq, hc⟩ := exists_numberedName_eq_cons extension number name
  have hne : c ≠ '.' := by
    rintro rfl
    exact absurd hc (by decide)
  rw [heq] at hslash ⊢
  exact ⟨hslash, List.cons_ne_nil c t, fun heq => hne (List.cons.inj heq).1,
    fun heq => hne (List.cons.inj heq).1⟩

/-- The name of a temporary file begins with a dot. -/
theorem exists_freshName_eq_cons (taken : List Text) : ∃ t, freshName taken = '.' :: t := by
  have htemp : ∀ n, ∃ t, tempName n = '.' :: t := fun n => ⟨_, rfl⟩
  unfold freshName
  cases hfind : ((List.range (taken.length + 1)).map tempName).find? (· ∉ taken) with
  | none => exact htemp 0
  | some name =>
    obtain ⟨n, -, rfl⟩ := List.mem_map.1 (List.mem_of_find?_eq_some hfind)
    exact htemp n

/-- The temporary file is not in the place of a numbered file. -/
def IsTemp (temp : Location) : Prop :=
  ∃ dir t, temp = dir ++ ['.' :: t]

/-- A temporary file has the name of one. -/
theorem isTemp_of_stage {temp : Location} (h : d.stage fs = .ok (temp, fs')) : IsTemp temp := by
  unfold stage at h
  split at h
  · cases h
  · cases h
    obtain ⟨t, ht⟩ := exists_freshName_eq_cons
      (((fs.top.get? ‹Location›).getD .empty).entries.map Prod.fst)
    exact ⟨_, t, by rw [ht]⟩

/-- No temporary file has a numbered name. -/
theorem IsTemp.ne {temp : Location} (h : IsTemp temp) (dir : Location) (extension name : Text)
    (number : Nat) : temp ≠ dir ++ [numberedName extension number name] := by
  obtain ⟨dir', t, rfl⟩ := h
  obtain ⟨c, t', heq, hc⟩ := exists_numberedName_eq_cons extension number name
  rw [heq]
  intro hsame
  obtain ⟨-, hname⟩ := List.append_inj' hsame rfl
  obtain rfl : '.' = c := (List.cons.inj (List.cons.inj hname).1).1
  exact absurd hc (by decide)

/-! ## Looking for a number -/

/-- A temporary file besides leaves the output directory open. -/
theorem opens_of_shifts {dir : Path} {bytes : List UInt8} {temp : Location}
    (h : made.Opens dir spot es) (hshifts : made.Shifts fs' bytes none (some temp)) :
    ∃ es', fs'.Opens dir spot es' :=
  h.mono hshifts.cwd fun l lab hl => hshifts.relocates.kept l lab hl (by simp)

/-- A numbered document of an output directory. -/
structure IsNumbered (d : Document) (dir : Path) (extension : Text) : Prop where
  numbered : d.settings.numbered
  dir_eq : d.settings.dir = dir
  extension_eq : d.settings.extension = extension
  slash_not_mem : '/' ∉ d.name

/-- Its path is that of its name in the directory. -/
theorem IsNumbered.target_eq {dir : Path} {extension : Text} (h : d.IsNumbered dir extension)
    (number : Nat) : d.target number = dir.join ⟨numberedName extension number d.name⟩ := by
  rw [Document.target_eq h.numbered, h.dir_eq, h.extension_eq]

/-- What the writing of a document has come to in `fs'`, from the output directory as it is in
`made`, at the address `spot` with these names. -/
def Seeks (d : Document) (extension : Text) (made : FileSystem) (spot : Location)
    (names : List Text) (s : Stage) (fs' : FileSystem) : Prop :=
  match s with
  | .start | .replacing _ => False
  | .scanning => fs' = made
  | .staging number => fs' = made ∧ Next extension d.name names number
  | .claiming temp number _ => Next extension d.name names number ∧ IsTemp temp ∧
      made.Shifts fs' d.bytes none (some temp)
  | .discarding temp _ => made.Shifts fs' d.bytes none (some temp)
  | .written path => ∃ number, path = d.target number ∧ Next extension d.name names number ∧
      numberedName extension number d.name ∉ names ∧
      made.Places fs' d.bytes (spot ++ [numberedName extension number d.name])
  | .failed _ => fs'.Sound ∧ fs'.cwd = made.cwd ∧ ∀ l, fs'.view l = made.view l

section Directory

variable {dir : Path} {extension : Text} (hd : d.IsNumbered dir extension)
  (hextension : '/' ∉ extension) (hopens : made.Opens dir spot es)

include hd hextension hopens

/-- With a temporary file besides, a file is moved to its numbered name if this is not taken, and to
nothing else. -/
theorem places_of_claim {temp : Location} {number : Nat} {fs'' : FileSystem}
    (hshifts : made.Shifts fs' d.bytes none (some temp))
    (hrename : fs'.rename temp (d.target number) false = .ok fs'') :
    numberedName extension number d.name ∉ es.map Prod.fst ∧
      made.Places fs'' d.bytes (spot ++ [numberedName extension number d.name]) := by
  have hname := leadsDown_numberedName hextension hd.slash_not_mem number
  obtain ⟨place, name, hleads, hplaces, hvacant⟩ := hshifts.places hrename
  rw [hd.target_eq] at hleads
  -- There is one place only to which the path leads.
  have hfind := FileSystem.find_of_vacant hleads (hvacant rfl) false
  rcases FileSystem.find_entry hopens hname with ⟨e, herror, -⟩ | ⟨hnone, hfind'⟩ | ⟨n, -, hnode⟩
  · cases herror.symm.trans hfind
  · cases hfind'.symm.trans hfind
    exact ⟨fun hmem => hopens.mem_names_iff.1 hmem hnone, hplaces⟩
  · cases hnode.symm.trans hfind

/-- If a temporary file is not moved to a numbered name since there is something, the name was taken
before. -/
theorem taken_of_claim {temp : Location} {number : Nat}
    (htemp : IsTemp temp) (hshifts : made.Shifts fs' d.bytes none (some temp))
    (hrename : fs'.rename temp (d.target number) false = .error .exists) :
    numberedName extension number d.name ∈ es.map Prod.fst := by
  have hname := leadsDown_numberedName hextension hd.slash_not_mem number
  obtain ⟨es', hopens'⟩ := opens_of_shifts hopens hshifts
  rw [hd.target_eq] at hrename
  rw [hopens.mem_names_iff, ← hshifts.view_of_ne (htemp.ne spot extension d.name number)]
  exact FileSystem.taken_of_rename hopens' hname hrename

/-- A step keeps what the writing has come to. -/
theorem Seeks.step (h : made.Sound) {s : Stage}
    (hs : d.Seeks extension made spot (es.map Prod.fst) s fs') :
    d.Seeks extension made spot (es.map Prod.fst) (d.step s fs').1 (d.step s fs').2 := by
  have hsame : made.Sound ∧ made.cwd = made.cwd ∧ ∀ l, made.view l = made.view l :=
    ⟨h, rfl, fun _ => rfl⟩
  cases s with
  | start => exact hs.elim
  | replacing => exact hs.elim
  | scanning =>
    obtain rfl : fs' = made := hs
    unfold Document.step
    simp only
    split
    · rename_i number hnumber
      rw [hd.dir_eq, hd.extension_eq, next?, hopens.names] at hnumber
      simp only [Option.ite_none_right_eq_some, Option.some.injEq] at hnumber
      obtain ⟨hlimit, rfl⟩ := hnumber
      exact ⟨rfl, next_highest hlimit d.name⟩
    · exact hsame
  | staging number =>
    obtain ⟨rfl, hnext⟩ := hs
    unfold Document.step
    simp only
    split
    · exact hsame
    · rename_i temp fs'' hstage
      have htemp := isTemp_of_stage hstage
      obtain ⟨place, name, rfl, hdir, hvacant, rfl⟩ := stage_eq_ok h hstage
      rw [if_pos hd.numbered]
      exact ⟨hnext, htemp, FileSystem.shifts_make h hdir hvacant d.bytes⟩
  | claiming temp number attempts =>
    obtain ⟨hnext, htemp, hshifts⟩ := hs
    cases attempts with
    | zero => exact hshifts
    | succ attempts =>
      unfold Document.step
      simp only
      split
      · obtain ⟨hfresh, hplaces⟩ := places_of_claim hd hextension hopens hshifts ‹_›
        exact ⟨number, rfl, hnext, hfresh, hplaces⟩
      · have htaken := taken_of_claim hd hextension hopens htemp hshifts ‹_›
        split
        · exact ⟨hnext.succ htaken ‹_›, htemp, hshifts⟩
        · exact hshifts
      · exact hshifts
  | discarding temp e => exact hs.remove
  | written path => exact hs
  | failed e => exact hs

/-! ## The end of a write -/

omit hextension hopens in
/-- With the output directory there, a write goes on by reading it. -/
theorem write_eq_run (hmake : fs.createDirectories dir = (made, none)) :
    d.write fs = d.run .scanning made := by
  rw [write, run_of_pending rfl, Document.step, hd.dir_eq, hmake]
  simp only [hd.numbered, if_true]

/-- A document whose output directory is there has been written with a number that comes next and
that was free, or there is nothing new. -/
theorem write_of_created (h : made.Sound) (hmake : fs.createDirectories dir = (made, none)) :
    (∃ number, (d.write fs).1 = .ok (d.target number) ∧
        Next extension d.name (es.map Prod.fst) number ∧
        numberedName extension number d.name ∉ es.map Prod.fst ∧
        made.Places (d.write fs).2 d.bytes
          (spot ++ [numberedName extension number d.name])) ∨
      ∃ e, (d.write fs).1 = .error e ∧ (d.write fs).2.Sound ∧ (d.write fs).2.cwd = made.cwd ∧
        ∀ l, (d.write fs).2.view l = made.view l := by
  have hscanning : d.Seeks extension made spot (es.map Prod.fst) .scanning made := rfl
  obtain ⟨s, hs, hresult⟩ :=
    exists_stage_run (fun _ _ => Seeks.step hd hextension hopens h) hscanning
  rw [← write_eq_run hd hmake] at hs hresult
  cases s with
  | written path =>
    obtain ⟨number, rfl, hnext, hfresh, hplaces⟩ := hs
    exact .inl ⟨number, (Option.some.inj hresult).symm, hnext, hfresh, hplaces⟩
  | failed e => exact .inr ⟨e, (Option.some.inj hresult).symm, hs⟩
  | _ => cases hresult

omit hextension in
/-- If the highest number is taken, the write ends in an error. -/
theorem write_exhausted (hmake : fs.createDirectories dir = (made, none)) {entry : Text}
    (hentry : entry ∈ es.map Prod.fst) (hcounts : Counts extension entry (limit - 1)) :
    d.write fs = (.error (.write dir .exhausted), made) := by
  have hnext : next? made dir extension = none := by
    have hle : limit - 1 ≤ highest extension (es.map Prod.fst) :=
      Nat.le_of_lt_succ ((highest_lt_iff.1 (Nat.lt_succ_self _)).2 entry hentry _ hcounts)
    have hlimit : 0 < limit := by decide
    rw [next?, hopens.names]
    exact if_neg (by omega)
  have hscanning : d.step .scanning made = (.failed (.write dir .exhausted), made) := by
    rw [Document.step, hd.dir_eq, hd.extension_eq, hnext]
  rw [write_eq_run hd hmake, run_of_pending rfl, hscanning, run_of_result rfl]

omit hextension in
/-- A temporary file can always be put into the output directory. -/
theorem exists_stage_of_opens (h : made.Sound) :
    ∃ temp fs', d.stage made = .ok (temp, fs') ∧ IsTemp temp ∧
      made.Shifts fs' d.bytes none (some temp) := by
  have hlocation : dirLocation made dir = .ok spot := by
    rw [dirLocation, if_neg hopens.finds.ne_nil,
      FileSystem.find_node_iff.2 ⟨hopens.finds, hopens.get?⟩]
  obtain ⟨temp, fs', hstage⟩ : ∃ temp fs', d.stage made = .ok (temp, fs') := by
    rw [stage, hd.dir_eq, hlocation]
    exact ⟨_, _, rfl⟩
  have htemp := isTemp_of_stage hstage
  obtain ⟨place, name, rfl, hdir, hvacant, rfl⟩ := stage_eq_ok h hstage
  exact ⟨_, _, hstage, htemp, FileSystem.shifts_make h hdir hvacant d.bytes⟩

/-- With a temporary file besides, a numbered name that is free can be claimed if nothing keeps the
path back. -/
theorem exists_rename_of_free {temp : Location} (htemp : IsTemp temp)
    (hshifts : made.Shifts fs' d.bytes none (some temp)) {number : Nat}
    (hfresh : numberedName extension number d.name ∉ es.map Prod.fst)
    (hnul : '\x00' ∉ numberedName extension number d.name)
    (hlength : Text.byteLength (numberedName extension number d.name) ≤ FileSystem.maxNameBytes)
    (hshort : Text.byteLength (d.target number).text < FileSystem.maxPathBytes) :
    ∃ fs'', fs'.rename temp (d.target number) false = .ok fs'' := by
  have hname := leadsDown_numberedName hextension hd.slash_not_mem number
  obtain ⟨es', hopens'⟩ := opens_of_shifts hopens hshifts
  have hnone : fs'.view (spot ++ [numberedName extension number d.name]) = none := by
    rw [hshifts.view_of_ne (htemp.ne spot extension d.name number)]
    by_contra hsome
    exact hfresh (hopens.mem_names_iff.2 hsome)
  rw [hd.target_eq] at hshort ⊢
  rcases FileSystem.find_entry hopens' hname with ⟨e, -, -, hback⟩ | ⟨-, hfind⟩ | ⟨n, hn, -⟩
  · rcases hback with hzero | hlong | hlong
    · exact absurd hzero hnul
    · exact absurd hshort (Nat.not_lt.2 hlong)
    · exact absurd hlong (Nat.not_lt.2 hlength)
  · exact ⟨_, by rw [FileSystem.rename, hfind]⟩
  · rw [FileSystem.view, Node.view, hn] at hnone
    cases hnone

/-- A document with a name in one line is written with the number above the highest one if nothing
keeps the path back. -/
theorem write_eq_ok (h : made.Sound) (hmake : fs.createDirectories dir = (made, none))
    (hfeed : '\n' ∉ d.name) {number : Nat}
    (hnumber : number = highest extension (es.map Prod.fst) + 1) (hlimit : number < limit)
    (hnul : '\x00' ∉ numberedName extension number d.name)
    (hlength : Text.byteLength (numberedName extension number d.name) ≤ FileSystem.maxNameBytes)
    (hshort : Text.byteLength (d.target number).text < FileSystem.maxPathBytes) :
    (d.write fs).1 = .ok (d.target number) := by
  have hnext : next? made dir extension = some number := by
    rw [next?, hopens.names, hnumber]
    exact if_pos (hnumber ▸ hlimit)
  have hscanning : d.step .scanning made = (.staging number, made) := by
    rw [Document.step, hd.dir_eq, hd.extension_eq, hnext]
  obtain ⟨temp, fs', hstage, htemp, hshifts⟩ := exists_stage_of_opens hd hopens h
  have hstaging : d.step (.staging number) made = (.claiming temp number maxAttempts, fs') := by
    rw [Document.step, hstage]
    simp only [hd.numbered, if_true]
  have hfresh : numberedName extension number d.name ∉ es.map Prod.fst := by
    rw [hnumber] at hlimit ⊢
    exact numberedName_highest_not_mem hfeed hlimit
  obtain ⟨fs'', hrename⟩ :=
    exists_rename_of_free hd hextension hopens htemp hshifts hfresh hnul hlength hshort
  rw [write_eq_run hd hmake, run_of_pending rfl, hscanning, run_of_pending rfl, hstaging,
    run_of_pending rfl, maxAttempts, step_claiming hrename, run_of_result rfl]

end Directory

end Stencil.Document
