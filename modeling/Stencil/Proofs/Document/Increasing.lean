import Mathlib
import Stencil.Proofs.Document.Above

/-!
# Numbers increase

What a numbered write leaves in the output directory, and what this means for the writes after it.
A write adds its own file name to the names in the directory and takes none away. So a number that
counts goes on counting, and every later number is above it (`lt_of_counts`). `write_above` puts
together what is known of the number that a write gets, when there is none left, and how numbers
follow each other.

A file counts if what stands behind its number is in one line. A name with a line feed in it is
passed over when the directory is read, so that its number can be given again
(`not_above_line_feed`).
-/

open Stencil.Numbering

namespace Stencil

variable {fs fs' made : FileSystem} {dir : Path} {extension : Text} {spot : Location}
  {es : List (Text × Node)}

namespace FileSystem

/-! ## Names that are added -/

/-- A file in a free place adds its name to those in the directory. -/
theorem Opens.places (h : made.Opens dir spot es) {name : Text} (hfresh : name ∉ es.map Prod.fst)
    {bytes : List UInt8} (hplaces : made.Places fs' bytes (spot ++ [name])) :
    ∃ es', fs'.Opens dir spot es' ∧
      ∀ x, x ∈ es'.map Prod.fst ↔ x ∈ es.map Prod.fst ∨ x = name := by
  have hkept : ∀ l lab, made.view l = some lab → fs'.view l = some lab := by
    intro l lab hl
    have hne : spot ++ [name] ≠ l := by
      rintro rfl
      exact hfresh (h.mem_names_iff.2 (by simp [hl]))
    rw [hplaces.view, if_neg hne, hl]
  obtain ⟨es', hopens⟩ := h.mono hplaces.cwd hkept
  refine ⟨es', hopens, fun x => ?_⟩
  rw [hopens.mem_names_iff, h.mem_names_iff, hplaces.view]
  by_cases hx : x = name
  · simp [hx]
  · have hne : spot ++ [name] ≠ spot ++ [x] := by simpa using Ne.symm hx
    simp [hne, hx]

/-- Where everything is as it was, so are the names in the directory. -/
theorem Opens.same (h : made.Opens dir spot es) (hcwd : fs'.cwd = made.cwd)
    (hview : ∀ l, fs'.view l = made.view l) :
    ∃ es', fs'.Opens dir spot es' ∧ ∀ x, x ∈ es'.map Prod.fst ↔ x ∈ es.map Prod.fst := by
  obtain ⟨es', hopens⟩ := h.mono hcwd fun l lab hl => (hview l).trans hl
  exact ⟨es', hopens, fun x => by rw [hopens.mem_names_iff, h.mem_names_iff, hview]⟩

end FileSystem

namespace Document

/-! ## One write -/

/-- Different numbers make different paths of a document. -/
theorem IsNumbered.target_injective {d : Document} (hd : d.IsNumbered dir extension) {m n : Nat}
    (h : d.target m = d.target n) : m = n := by
  rw [hd.target_eq, hd.target_eq, Path.join, Path.join,
    if_neg (numberedName_not_absolute extension m d.name),
    if_neg (numberedName_not_absolute extension n d.name)] at h
  -- The path of the directory ends in a slash or not, and the name stands behind it.
  have hname : numberedName extension m d.name = numberedName extension n d.name := by
    split at h
    · exact congrArg Path.text h
    · exact List.append_cancel_left (congrArg Path.text h)
    · exact (List.cons.inj (List.append_cancel_left (congrArg Path.text h))).2
  exact numberedName_injective hname

/-- What is known of a numbered document that has been written to a directory with these names. -/
structure WrittenAs (d : Document) (dir : Path) (extension : Text) (names : List Text) (path : Path)
    (number : Nat) (after : FileSystem) : Prop where
  path_eq : path = d.target number
  next : Next extension d.name names number
  /-- If no name has a number, whether in one line or not, the document gets the first one. -/
  first : (∀ entry ∈ names, ∀ m middle, ¬ Bears extension entry m middle) → number = 1
  /-- A document with a name in one line gets the number above the highest one. -/
  highest : '\n' ∉ d.name → number = Numbering.highest extension names + 1
  fresh : numberedName extension number d.name ∉ names
  /-- The name of the file is added to those in the directory. -/
  added : ∃ names', after.names dir = .ok names' ∧
    ∀ x, x ∈ names' ↔ x ∈ names ∨ x = numberedName extension number d.name

variable {d : Document}

/-- A write that succeeds has the output directory there. -/
theorem created_of_write (hd : d.IsNumbered dir extension) {path : Path}
    (hwrite : (d.write fs).1 = .ok path) :
    fs.createDirectories dir = ((fs.createDirectories dir).1, none) := by
  rw [write, run_of_pending rfl, step, hd.dir_eq] at hwrite
  generalize fs.createDirectories dir = created at hwrite
  obtain ⟨made, error⟩ := created
  cases error with
  | none => rfl
  | some e =>
    simp only at hwrite
    rw [run_of_result rfl] at hwrite
    cases hwrite

section Directory

variable (hd : d.IsNumbered dir extension) (hextension : '/' ∉ extension)

include hd hextension

/-- A document that has been written has a number above those in the directory. -/
theorem writtenAs_of_write (h : made.Sound) (hopens : made.Opens dir spot es)
    (hmake : fs.createDirectories dir = (made, none)) {path : Path}
    (hwrite : (d.write fs).1 = .ok path) :
    ∃ number, d.WrittenAs dir extension (es.map Prod.fst) path number (d.write fs).2 := by
  rcases write_of_created hd hextension hopens h hmake with
    ⟨number, hok, hnext, hfresh, hplaces⟩ | ⟨e, herror, -⟩
  · obtain rfl := Except.ok.inj (hok.symm.trans hwrite)
    obtain ⟨es', hopens', hnames⟩ := hopens.places hfresh hplaces
    exact ⟨number, rfl, hnext, hnext.eq_one, hnext.eq_highest, hfresh, _, hopens'.names, hnames⟩
  · cases herror.symm.trans hwrite

/-- A write keeps what is in the output directory. -/
theorem opens_of_write (h : made.Sound) (hopens : made.Opens dir spot es)
    (hmake : fs.createDirectories dir = (made, none)) :
    (d.write fs).2.Sound ∧ ∃ es', (d.write fs).2.Opens dir spot es' ∧
      ∀ x ∈ es.map Prod.fst, x ∈ es'.map Prod.fst := by
  rcases write_of_created hd hextension hopens h hmake with
    ⟨number, -, -, hfresh, hplaces⟩ | ⟨e, -, hsound, hcwd, hview⟩
  · obtain ⟨es', hopens', hnames⟩ := hopens.places hfresh hplaces
    exact ⟨hplaces.sound, es', hopens', fun x hx => (hnames x).2 (.inl hx)⟩
  · obtain ⟨es', hopens', hnames⟩ := hopens.same hcwd hview
    exact ⟨hsound, es', hopens', fun x hx => (hnames x).2 hx⟩

/-- A write leaves a sound file system. -/
theorem sound_write (hdir : dir.text ≠ []) (h : fs.Sound) : (d.write fs).2.Sound := by
  have hmade := (FileSystem.grows_createDirectories h dir).sound
  cases hmake : fs.createDirectories dir with
  | mk made error =>
    rw [hmake] at hmade
    cases error with
    | none =>
      obtain ⟨spot, es, hopens⟩ := FileSystem.opens_of_createDirectories h hdir hmake
      exact (opens_of_write hd hextension hmade hopens hmake).1
    | some e =>
      rw [write, run_of_pending rfl, step, hd.dir_eq, hmake]
      simp only
      rw [run_of_result rfl]
      exact hmade

end Directory

/-! ## One write after the other -/

/-- Writes documents one after the other, and returns what each write has come to. -/
def writeAll : List Document → FileSystem → List (Except OutputError Path) × FileSystem
  | [], fs => ([], fs)
  | d :: docs, fs =>
    let (result, fs) := d.write fs
    let (results, fs) := writeAll docs fs
    (result :: results, fs)

/-- The first result is that of the first document, and the others are those of the others, which
are written behind it. -/
theorem writeAll_cons (d : Document) (docs : List Document) (fs : FileSystem) :
    (writeAll (d :: docs) fs).1 = (d.write fs).1 :: (writeAll docs (d.write fs).2).1 := rfl

/-- All numbers that are given are above those that count in the output directory. -/
theorem lt_of_counts (hextension : '/' ∉ extension) {docs : List Document}
    (hdocs : ∀ d ∈ docs, d.IsNumbered dir extension) (h : fs.Sound) (hopens : fs.Opens dir spot es)
    {entry : Text} (hentry : entry ∈ es.map Prod.fst) {m : Nat} (hm : Counts extension entry m)
    {j n : Nat} {e : Document} (he : docs[j]? = some e)
    (hwritten : (writeAll docs fs).1[j]? = some (.ok (e.target n))) : m < n := by
  induction docs generalizing fs es j with
  | nil => cases he
  | cons d docs ih =>
    obtain ⟨hd, hrest⟩ := List.forall_mem_cons.1 hdocs
    have hmake := FileSystem.createDirectories_of_opens hopens
    rw [writeAll_cons] at hwritten
    cases j with
    | zero =>
      obtain rfl : d = e := Option.some.inj he
      obtain ⟨number, hnumber⟩ :=
        writtenAs_of_write hd hextension h hopens hmake (Option.some.inj hwritten)
      rw [hd.target_injective hnumber.path_eq]
      exact hnumber.next.above entry hentry m hm
    | succ j =>
      obtain ⟨hsound, es', hopens', hnames⟩ := opens_of_write hd hextension h hopens hmake
      exact ih hrest hsound hopens' (hnames _ hentry) he hwritten

/-- The numbers that documents with names in one line are given increase. -/
theorem number_lt_of_lt (hdir : dir.text ≠ []) (hextension : '/' ∉ extension)
    {docs : List Document} (hdocs : ∀ d ∈ docs, d.IsNumbered dir extension ∧ '\n' ∉ d.name)
    (h : fs.Sound) {i j m n : Nat} (hij : i < j) {d e : Document} (hd : docs[i]? = some d)
    (he : docs[j]? = some e) (hfirst : (writeAll docs fs).1[i]? = some (.ok (d.target m)))
    (hsecond : (writeAll docs fs).1[j]? = some (.ok (e.target n))) : m < n := by
  induction docs generalizing fs i j with
  | nil => cases hd
  | cons d' docs ih =>
    obtain ⟨⟨hd', hfeed⟩, hrest⟩ := List.forall_mem_cons.1 hdocs
    obtain ⟨j, rfl⟩ : ∃ k, j = k + 1 := ⟨j - 1, by omega⟩
    rw [writeAll_cons] at hfirst hsecond
    cases i with
    | zero =>
      -- The file of the first document counts for the second one.
      obtain rfl : d' = d := Option.some.inj hd
      have hok := Option.some.inj hfirst
      have hmake := created_of_write hd' hok
      have hmade := (FileSystem.grows_createDirectories h dir).sound
      obtain ⟨spot, es, hopens⟩ := FileSystem.opens_of_createDirectories h hdir hmake
      obtain ⟨number, hnumber⟩ := writtenAs_of_write hd' hextension hmade hopens hmake hok
      obtain ⟨hsound, -⟩ := opens_of_write hd' hextension hmade hopens hmake
      obtain ⟨names', hnames', hmem⟩ := hnumber.added
      obtain ⟨spot', es', hopens', rfl⟩ := FileSystem.exists_opens_of_names hnames'
      rw [hd'.target_injective hnumber.path_eq]
      exact lt_of_counts hextension (fun d hd => (hrest d hd).1) hsound hopens'
        ((hmem _).2 (.inr rfl))
        ⟨d'.name, bears_numberedName hnumber.next.lt_limit extension d'.name, hfeed⟩ he hsecond
    | succ i =>
      exact ih hrest (sound_write hd' hextension hdir h) (Nat.lt_of_succ_lt_succ hij) hd he hfirst
        hsecond

/-- Numbered documents go above everything in their directory:

* A document that is written gets a number above all that count there, and the first one if there
  is none.
* If the highest number is taken, the write ends in an error.
* Otherwise a document with a name in one line gets the number above the highest one, as long as
  neither its path nor its file name is too long or has a NUL in it.
* A directory that is there is not changed before it is read.
* Of documents in one line that are written one after the other, each gets a number above those of
  all before it. -/
theorem write_above (hdir : dir.text ≠ []) (hextension : '/' ∉ extension) (h : fs.Sound) :
    (∀ d : Document, d.IsNumbered dir extension → ∀ path after, d.write fs = (.ok path, after) →
      ∃ made names number, fs.createDirectories dir = (made, none) ∧
        made.names dir = .ok names ∧ d.WrittenAs dir extension names path number after) ∧
    (∀ d : Document, d.IsNumbered dir extension → ∀ made names,
      fs.createDirectories dir = (made, none) → made.names dir = .ok names →
        ((∃ entry ∈ names, Counts extension entry (limit - 1)) →
          d.write fs = (.error (.write dir .exhausted), made)) ∧
        ∀ number, number = Numbering.highest extension names + 1 → number < limit →
          '\n' ∉ d.name → '\x00' ∉ numberedName extension number d.name →
          Text.byteLength (numberedName extension number d.name) ≤ FileSystem.maxNameBytes →
          Text.byteLength (d.target number).text < FileSystem.maxPathBytes →
            (d.write fs).1 = .ok (d.target number)) ∧
    (∀ names, fs.names dir = .ok names → fs.createDirectories dir = (fs, none)) ∧
    ∀ docs : List Document, (∀ d ∈ docs, d.IsNumbered dir extension ∧ '\n' ∉ d.name) →
      ∀ (i j m n : Nat) (d e : Document), i < j → docs[i]? = some d → docs[j]? = some e →
        (writeAll docs fs).1[i]? = some (.ok (d.target m)) →
        (writeAll docs fs).1[j]? = some (.ok (e.target n)) → m < n := by
  have hmade : ∀ made, fs.createDirectories dir = (made, none) → made.Sound := by
    intro made hmake
    have hgrows := FileSystem.grows_createDirectories h dir
    rw [hmake] at hgrows
    exact hgrows.sound
  refine ⟨fun d hd path after hwrite => ?_, fun d hd made names hmake hnames => ?_,
    fun names hnames => ?_, fun docs hdocs i j m n d e hij hdi hej hfirst hsecond =>
      number_lt_of_lt hdir hextension hdocs h hij hdi hej hfirst hsecond⟩
  · have hok : (d.write fs).1 = .ok path := congrArg Prod.fst hwrite
    have hmake := created_of_write hd hok
    obtain ⟨spot, es, hopens⟩ := FileSystem.opens_of_createDirectories h hdir hmake
    obtain ⟨number, hnumber⟩ :=
      writtenAs_of_write hd hextension (hmade _ hmake) hopens hmake hok
    rw [hwrite] at hnumber
    exact ⟨_, _, number, hmake, hopens.names, hnumber⟩
  · obtain ⟨spot, es, hopens, rfl⟩ := FileSystem.exists_opens_of_names hnames
    refine ⟨fun ⟨entry, hentry, hcounts⟩ => write_exhausted hd hopens hmake hentry hcounts,
      fun number hnumber hlimit hfeed hnul hlength hshort => ?_⟩
    exact write_eq_ok hd hextension hopens (hmade _ hmake) hmake hfeed hnumber hlimit hnul hlength
      hshort
  · obtain ⟨spot, es, hopens, -⟩ := FileSystem.exists_opens_of_names hnames
    exact FileSystem.createDirectories_of_opens hopens

/-- A document in a directory `out`. -/
def draft (extension name : Text) : Document :=
  ⟨{ dir := ⟨"out".toList⟩, givenExtension := extension }, name, "x".toList⟩

/-- A tree with one directory `out`, in which there are files with these names. -/
def outTree (names : List Text) : FileSystem :=
  ⟨.directory [("out".toList, .directory (names.map fun name => (name, .file [])))], []⟩

/-- Such a tree is sound if the names are different. -/
theorem sound_outTree {names : List Text} (h : names.Nodup) : (outTree names).Sound := by
  refine ⟨Node.wellFormed_of_entries (by simp) ?_, rfl⟩
  simp only [List.mem_singleton, forall_eq]
  refine Node.wellFormed_of_entries (by simpa [Function.comp_def] using h) fun e he => ?_
  obtain ⟨name, -, rfl⟩ := List.mem_map.1 he
  exact Node.IsLeaf.wellFormed rfl

/-- Two files, the second one with the highest number of all. -/
def highNames : List Text :=
  ["005-a.md".toList, "4294967295-b.txt".toList]

/-- Two notes are written behind the highest number with their extension, and for another extension
there is no number left. -/
theorem write_above_notes :
    let out : Path := ⟨"out".toList⟩
    let docs := [draft "md".toList "c".toList, draft "md".toList "d".toList]
    out.text ≠ [] ∧ '/' ∉ "md".toList ∧ (outTree highNames).Sound ∧
      (∀ d ∈ docs, d.IsNumbered out "md".toList ∧ '\n' ∉ d.name) ∧
      (outTree highNames).createDirectories out = (outTree highNames, none) ∧
      ((draft "md".toList "c".toList).write (outTree highNames)).1
        = .ok ⟨"out/006-c.md".toList⟩ ∧
      (∃ names number after, (draft "md".toList "c".toList).WrittenAs out "md".toList names
        ⟨"out/006-c.md".toList⟩ number after) ∧
      (writeAll docs (outTree highNames)).1
        = [.ok ⟨"out/006-c.md".toList⟩, .ok ⟨"out/007-d.md".toList⟩] ∧ 6 < 7 ∧
      (draft "txt".toList "c".toList).write (outTree highNames)
        = (.error (.write out .exhausted), outTree highNames) := by
  intro out docs
  have hdir : out.text ≠ [] := List.cons_ne_nil _ _
  have hmd : '/' ∉ "md".toList := by decide
  have htxt : '/' ∉ "txt".toList := by decide
  have hsound : (outTree highNames).Sound := sound_outTree (by decide)
  have hdocs : ∀ d ∈ docs, d.IsNumbered out "md".toList ∧ '\n' ∉ d.name := by
    intro d hd
    rcases List.mem_pair.1 hd with rfl | rfl <;>
      exact ⟨⟨rfl, rfl, by decide, by decide⟩, by decide⟩
  have hnumbered : (draft "txt".toList "c".toList).IsNumbered out "txt".toList :=
    ⟨rfl, rfl, by decide, by decide⟩
  have hnames : (outTree highNames).names ⟨"out".toList⟩ = .ok highNames := by cbv
  have hhighest : Numbering.highest "md".toList highNames = 5 := by decide +kernel
  have hlast : Counts "txt".toList "4294967295-b.txt".toList (limit - 1) :=
    numberOf?_eq_some_iff.1 (by decide +kernel)
  obtain ⟨hwritten, hwhole, hthere, hincreasing⟩ :=
    @write_above (outTree highNames) out "md".toList hdir hmd hsound
  obtain ⟨-, hwhole', -⟩ := @write_above (outTree highNames) out "txt".toList hdir htxt hsound
  have hmake := hthere _ hnames
  obtain ⟨hc, -⟩ := hdocs _ List.mem_cons_self
  have hok := (hwhole _ hc _ _ hmake hnames).2 6 (by rw [hhighest]) (by decide) (by decide)
    (by decide) (by decide) (by decide)
  have hall : (writeAll [draft "md".toList "c".toList, draft "md".toList "d".toList]
      (outTree highNames)).1
        = [.ok ((draft "md".toList "c".toList).target 6),
          .ok ((draft "md".toList "d".toList).target 7)] := by
    cbv
  obtain ⟨-, names, number, -, -, hnumber⟩ := hwritten _ hc _ _ (Prod.ext hok rfl)
  refine ⟨hdir, hmd, hsound, hdocs, hmake, hok, ⟨names, number, _, hnumber⟩, hall,
    hincreasing docs hdocs 0 1 6 7 _ _ Nat.zero_lt_one rfl rfl (by rw [hall]; rfl)
      (by rw [hall]; rfl), ?_⟩
  exact (hwhole' _ hnumbered _ _ hmake hnames).1 ⟨_, by decide, hlast⟩

/-- A file with a line feed in its name is passed over, so that a smaller number is given. -/
theorem not_above_line_feed : ¬ ∀ (d : Document) (dir : Path) (extension : Text)
    (fs after : FileSystem) (path : Path) (names : List Text), fs.Sound → dir.text ≠ [] →
      '/' ∉ extension → d.IsNumbered dir extension → fs.names dir = .ok names →
      d.write fs = (.ok path, after) → ∃ number, path = d.target number ∧
        ∀ entry ∈ names, ∀ m middle, Bears extension entry m middle → m < number := by
  intro h
  have hnames : (outTree ["005-a\nb.md".toList]).names ⟨"out".toList⟩
      = .ok ["005-a\nb.md".toList] := by
    cbv
  have hwrite : ((draft "md".toList "c".toList).write (outTree ["005-a\nb.md".toList])).1
      = .ok ((draft "md".toList "c".toList).target 1) := by
    cbv
  have hd : (draft "md".toList "c".toList).IsNumbered ⟨"out".toList⟩ "md".toList :=
    ⟨rfl, rfl, by decide, by decide⟩
  obtain ⟨number, hpath, habove⟩ := h _ _ "md".toList _ _ _ _ (sound_outTree (by decide))
    (List.cons_ne_nil _ _) (by decide) hd hnames (Prod.ext hwrite rfl)
  obtain rfl := hd.target_injective hpath
  have hfive : Bears "md".toList "005-a\nb.md".toList 5 "a\nb".toList :=
    ⟨by decide, "005".toList, by decide, by decide, by simp, by decide⟩
  have hlt : 5 < 1 := habove _ List.mem_cons_self _ _ hfive
  omega

end Document

end Stencil
