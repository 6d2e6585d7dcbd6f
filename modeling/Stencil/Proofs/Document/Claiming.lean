import Mathlib
import Stencil.Proofs.Document.Increasing

/-!
# The lowest free number is claimed

A numbered document tries a number of numbers one after the other and gets the lowest with which
there is no file (`claims_least`). It is assumed that nothing but a file that is there already keeps
the temporary file from being moved. With such a document, `Tries` says of each stage which numbers
have been tried, namely all from the first one on up to the next, and that they were taken. A step
keeps this (`Tries.step`), so that the number where the tries end is the lowest free one, or there
is none.

That nothing else gets in the way is so for ordinary names in an output directory that is there
(`occupied_of_rename`).
-/

open Stencil.Numbering

namespace Stencil

namespace FileSystem

variable {fs made fs' : FileSystem} {p : Path}

/-! ## Places that are taken -/

/-- There is something where a path leads. A link counts whether or not it leads anywhere. -/
def Occupied (fs : FileSystem) (p : Path) : Prop :=
  ∃ spot n, fs.find false p = .ok (.node spot n)

/-- What is there stays there when a file is made. -/
theorem Occupied.shifts (h : made.Occupied p) {bytes : List UInt8} {temp : Location}
    (hshifts : made.Shifts fs bytes none (some temp)) : fs.Occupied p := by
  obtain ⟨spot, n, hfind⟩ := h
  obtain ⟨hfinds, hn⟩ := find_node_iff.1 hfind
  have hkept : ∀ l lab, made.view l = some lab → fs.view l = some lab :=
    fun l lab hl => hshifts.relocates.kept l lab hl (by simp)
  obtain ⟨m, hm, -⟩ := Option.map_eq_some_iff.1 (hkept _ _ (Node.view_of_get? hn))
  exact ⟨spot, m, find_node_iff.2 ⟨hfinds.mono hshifts.cwd hkept, hm⟩⟩

/-- A file is not moved to where there is something. -/
theorem Occupied.rename_eq (h : fs.Occupied p) (source : Location) :
    fs.rename source p false = .error .exists := by
  obtain ⟨spot, n, hfind⟩ := h
  rw [rename, hfind]
  rfl

/-- A path that leads to a vacant place leads to nothing that is there. -/
theorem Leads.not_occupied {dir : Location} {name : Text} (h : fs.Leads p dir name)
    (hvacant : fs.view (dir ++ [name]) = none) : ¬ fs.Occupied p := by
  rintro ⟨spot, n, hfind⟩
  cases (find_of_vacant h hvacant false).symm.trans hfind

end FileSystem

namespace Document

variable {d : Document} {fs staged fs' : FileSystem} {temp : Location} {start n : Nat}

/-! ## Numbers that are tried -/

/-- The number is among those that are tried from `start` on, and there is no file with it. -/
structure Free (d : Document) (fs : FileSystem) (start n : Nat) : Prop where
  start_le : start ≤ n
  lt_attempts : n < start + maxAttempts
  lt_limit : n < limit
  vacant : ¬ fs.Occupied (d.target n)

/-- The error that the tries end in if no number is free: there are no further attempts, or no
further numbers. -/
def refusal (d : Document) (start : Nat) : OutputError :=
  if start + maxAttempts < limit then .write (d.target (start + maxAttempts)) .noFreeNumber
  else .write (d.target (limit - 1)) .exhausted

/-- The content of a document has been put where its path leads, which was vacant, and nothing else
has changed. -/
structure WrittenTo (d : Document) (fs : FileSystem) (p : Path) (fs' : FileSystem) : Prop where
  created : ∃ dir name, fs.Leads p dir name ∧ fs.view (dir ++ [name]) = none ∧
    fs.Places fs' d.bytes (dir ++ [name])
  read_eq : fs'.read p = .ok d.bytes

/-- The stage and the file system after a number of steps. -/
def stepped (d : Document) (k : Nat) (s : Stage) (fs : FileSystem) : Stage × FileSystem :=
  (fun x => d.step x.1 x.2)^[k] (s, fs)

/-- What the writing of a document, begun in `fs` with the number `start`, has come to in `fs'`. The
temporary file is made at `temp`, by which `fs` becomes `staged`. -/
def Tries (d : Document) (fs : FileSystem) (start : Nat) (temp : Location) (staged : FileSystem)
    (s : Stage) (fs' : FileSystem) : Prop :=
  match s with
  | .start | .scanning | .replacing _ => False
  | .staging number => number = start ∧ fs' = fs
  | .claiming temp' number attempts => temp' = temp ∧ fs' = staged ∧ start ≤ number ∧
      number < limit ∧ number + attempts = start + maxAttempts ∧
      ∀ n, start ≤ n → n < number → fs.Occupied (d.target n)
  | .discarding temp' e => temp' = temp ∧ fs' = staged ∧ e = d.refusal start ∧
      ∀ n, ¬ d.Free fs start n
  | .written path => ∃ n, path = d.target n ∧ IsLeast {n | d.Free fs start n} n ∧
      d.WrittenTo fs path fs'
  | .failed e => e = d.refusal start ∧ (∀ n, ¬ d.Free fs start n) ∧ fs'.cwd = fs.cwd ∧
      ∀ l, fs'.view l = fs.view l

/-- If all numbers below the end of the window are taken, none is free. -/
theorem not_free_of_taken {bound : Nat} (htaken : ∀ n, start ≤ n → n < bound →
    fs.Occupied (d.target n)) (hbound : start + maxAttempts ≤ bound ∨ limit ≤ bound) (n : Nat) :
    ¬ d.Free fs start n := by
  intro hfree
  have hlt : n < bound := by
    have hattempts := hfree.lt_attempts
    have hlimit := hfree.lt_limit
    omega
  exact hfree.vacant (htaken n hfree.start_le hlt)

/-- A number with which there is no file is the lowest free one if the numbers before it are
taken. -/
theorem isLeast_of_taken (hstart : start ≤ n) (hattempts : n < start + maxAttempts)
    (hlimit : n < limit) (htaken : ∀ m, start ≤ m → m < n → fs.Occupied (d.target m))
    (hvacant : ¬ fs.Occupied (d.target n)) : IsLeast {n | d.Free fs start n} n := by
  refine ⟨⟨hstart, hattempts, hlimit, hvacant⟩, fun m hm => ?_⟩
  by_contra hlt
  exact hm.vacant (htaken m hm.start_le (Nat.lt_of_not_le hlt))

section Claims

variable (hd : d.settings.numbered) (h : fs.Sound) (hstart : start < limit)
  (hstage : d.stage fs = .ok (temp, staged))
  (hpersist : ∀ n e, start ≤ n → n < start + maxAttempts → n < limit →
    staged.rename temp (d.target n) false = .error e → fs.Occupied (d.target n))

include h hstage

/-- The temporary file is a new one. -/
theorem shifts_of_stage : fs.Shifts staged d.bytes none (some temp) := by
  obtain ⟨dir, name, rfl, hdir, hvacant, rfl⟩ := stage_eq_ok h hstage
  exact FileSystem.shifts_make h hdir hvacant d.bytes

/-- Where the temporary file is moved, there was nothing, and the document is written. -/
theorem writtenTo_of_rename {p : Path} (hrename : staged.rename temp p false = .ok fs') :
    ¬ fs.Occupied p ∧ d.WrittenTo fs p fs' := by
  obtain ⟨dir, name, hleads, hplaces, hvacant⟩ := (shifts_of_stage h hstage).places hrename
  refine ⟨hleads.not_occupied (hvacant rfl), ⟨dir, name, hleads, hvacant rfl, hplaces⟩, ?_⟩
  -- No link has been replaced.
  refine (hplaces.read_eq h hleads).resolve_right ?_
  rintro ⟨⟨target, hlink⟩, -⟩
  cases (hvacant rfl).symm.trans hlink

include hd hstart hpersist

/-- A step keeps what the tries have come to. -/
theorem Tries.step {s : Stage} (hs : d.Tries fs start temp staged s fs') :
    d.Tries fs start temp staged (d.step s fs').1 (d.step s fs').2 := by
  have hshifts := shifts_of_stage h hstage
  cases s with
  | start => exact hs.elim
  | scanning => exact hs.elim
  | replacing => exact hs.elim
  | staging number =>
    obtain ⟨rfl, rfl⟩ := hs
    rw [Document.step, hstage]
    simp only [hd, if_true]
    exact ⟨rfl, rfl, Nat.le_refl _, hstart, rfl, fun n hle hlt => absurd hlt (Nat.not_lt.2 hle)⟩
  | claiming temp' number attempts =>
    obtain ⟨rfl, rfl, hle, hlimit, hsum, htaken⟩ := hs
    cases attempts with
    | zero =>
      -- All attempts have been made, with the numbers of the whole window.
      obtain rfl : number = start + maxAttempts := hsum
      have hrefusal : d.refusal start
          = .write (d.target (start + maxAttempts)) .noFreeNumber := if_pos hlimit
      exact ⟨rfl, rfl, hrefusal.symm, not_free_of_taken htaken (.inl (Nat.le_refl _))⟩
    | succ attempts =>
      have hwindow : number < start + maxAttempts := by omega
      cases hrename : fs'.rename temp' (d.target number) false with
      | ok fs'' =>
        obtain ⟨hvacant, hwritten⟩ := writtenTo_of_rename h hstage hrename
        rw [step_claiming hrename]
        exact ⟨number, rfl, isLeast_of_taken hle hwindow hlimit htaken hvacant, hwritten⟩
      | error e =>
        -- There was something before the temporary file was made, and so there is now.
        have hoccupied := hpersist number e hle hwindow hlimit hrename
        have hexists := (hoccupied.shifts hshifts).rename_eq temp'
        have htaken' : ∀ n, start ≤ n → n < number + 1 → fs.Occupied (d.target n) := by
          intro n hn hlt
          rcases Nat.lt_succ_iff_lt_or_eq.1 hlt with hlt | rfl
          · exact htaken n hn hlt
          · exact hoccupied
        rw [Document.step, hexists]
        simp only
        by_cases hnext : number + 1 < limit
        · rw [if_pos hnext]
          exact ⟨rfl, rfl, by omega, hnext, by omega, htaken'⟩
        · -- The highest number of all is taken.
          have hlast : number = limit - 1 := by omega
          have hrefusal : d.refusal start = .write (d.target number) .exhausted := by
            rw [refusal, if_neg (by omega), hlast]
          rw [if_neg hnext]
          exact ⟨rfl, rfl, hrefusal.symm, not_free_of_taken htaken' (.inr (by omega))⟩
  | discarding temp' e =>
    obtain ⟨rfl, rfl, rfl, hnone⟩ := hs
    obtain ⟨-, hcwd, hview⟩ := hshifts.remove
    exact ⟨rfl, hnone, hcwd, hview⟩
  | written path => exact hs
  | failed e => exact hs

/-- The tries come to an end at the lowest free number, or at none. -/
theorem exists_stage_of_tries : ∃ s, d.Tries fs start temp staged s (d.run (.staging start) fs).2 ∧
    s.result? = some (d.run (.staging start) fs).1 := by
  have hstaging : d.Tries fs start temp staged (.staging start) fs := ⟨rfl, rfl⟩
  exact exists_stage_run (fun _ _ => Tries.step hd h hstart hstage hpersist) hstaging

/-- What the tries have come to after a number of steps. -/
theorem tries_stepped (k : Nat) :
    d.Tries fs start temp staged (d.stepped k (.staging start) fs).1
      (d.stepped k (.staging start) fs).2 := by
  induction k with
  | zero => exact ⟨rfl, rfl⟩
  | succ k ih =>
    rw [stepped, Function.iterate_succ_apply']
    exact ih.step hd h hstart hstage hpersist

end Claims

/-! ## Ordinary names -/

section Ordinary

variable {dir : Path} {extension : Text} {spot : Location} {es : List (Text × Node)}
  (hd : d.IsNumbered dir extension) (hextension : '/' ∉ extension)
  (hopens : fs.Opens dir spot es) (hnul : '\x00' ∉ numberedName extension n d.name)
  (hlength : Text.byteLength (numberedName extension n d.name) ≤ FileSystem.maxNameBytes)
  (hshort : Text.byteLength (d.target n).text < FileSystem.maxPathBytes)

include hd hextension hopens hnul hlength hshort

/-- In an output directory that is there, a number is taken exactly if the numbered name is among
those in the directory, as long as neither this nor the path is too long or has a NUL in it. -/
theorem occupied_iff : fs.Occupied (d.target n) ↔
    numberedName extension n d.name ∈ es.map Prod.fst := by
  have hname := leadsDown_numberedName hextension hd.slash_not_mem n
  rw [hopens.mem_names_iff]
  rw [hd.target_eq] at hshort ⊢
  rcases FileSystem.find_entry hopens hname with
    ⟨e, -, -, hback⟩ | ⟨hnone, hfind⟩ | ⟨m, hm, hfind⟩
  · rcases hback with hzero | hlong | hlong
    · exact absurd hzero hnul
    · exact absurd hshort (Nat.not_lt.2 hlong)
    · exact absurd hlong (Nat.not_lt.2 hlength)
  · refine iff_of_false ?_ (not_not.2 hnone)
    rintro ⟨_, _, hnode⟩
    cases hnode.symm.trans hfind
  · refine iff_of_true ⟨_, m, hfind⟩ ?_
    rw [FileSystem.view, Node.view_of_get? hm]
    simp

/-- With such a name, nothing but a file that is there keeps the temporary file from being moved. -/
theorem occupied_of_rename (h : fs.Sound) (hstage : d.stage fs = .ok (temp, staged))
    {e : FileError} (hrename : staged.rename temp (d.target n) false = .error e) :
    fs.Occupied (d.target n) := by
  rw [occupied_iff hd hextension hopens hnul hlength hshort]
  by_contra hfresh
  obtain ⟨fs', hmoved⟩ := exists_rename_of_free hd hextension hopens (isTemp_of_stage hstage)
    (shifts_of_stage h hstage) hfresh hnul hlength hshort
  cases hmoved.symm.trans hrename

end Ordinary

/-- Files with the numbers 3 and 4, one of another name with the number 5, and one with the highest
number of all. -/
def takenNames : List Text :=
  ["003-foo.md".toList, "004-foo.md".toList, "005-bar.md".toList, "4294967295-foo.md".toList]

end Document

end Stencil
