import Stencil.Proofs.Document.Pool
import Stencil.Proofs.Text.Split

/-!
# Numbers that are taken twice

A number is read off the directory in one step and claimed in another, and what is claimed is a
path. `exclusive_iff` says when two documents of one directory and extension never come to the same
number, whatever the order of their steps: exactly if they have the same name, or one of the names
can be given to no file. Documents with the same name cannot share a number since they cannot share
a path. Others can: if both look for a number before either has claimed one, they find the same
one, and their paths are different.
-/

namespace Stencil

/-- A text that can be the name of a file. -/
structure IsFileName (s : Text) : Prop where
  no_nul : '\x00' ∉ s
  no_slash : '/' ∉ s
  length_le : Text.byteLength s ≤ FileSystem.maxNameBytes

/-- Two numbered documents of one directory with this extension and these names never get the same
number, whatever there is in the directory and whatever the order of their steps. -/
def Exclusive (extension a b : Text) : Prop :=
  ∀ d e : Document, d.settings.numbered → e.settings.numbered →
    d.settings.dir = e.settings.dir → d.settings.extension = extension →
    e.settings.extension = extension → d.name = a → e.name = b →
    ∀ fs : FileSystem, fs.Sound → ∀ (schedule : List Nat) (m n : Nat),
      ((Pool.start fs [d, e]).run schedule).writers.map Prod.snd
        = [.written (d.target m), .written (e.target n)] → m ≠ n

/-! ## Names that are written -/

/-- A character takes at least one byte. -/
theorem Text.length_le_byteLength (s : Text) : s.length ≤ Text.byteLength s := by
  induction s with
  | nil => exact Nat.zero_le _
  | cons c s ih =>
    rw [Text.byteLength_cons, List.length_cons]
    have hc := c.utf8Size_pos
    omega

/-- A name that can be given to a file with some number can be given to it with the first one, since
that has no more digits. -/
theorem isFileName_first {extension name : Text} {number : Nat}
    (h : IsFileName (numberedName extension number name)) :
    IsFileName (numberedName extension 1 name) := by
  -- The two names differ in digits alone, of which every number has at least three.
  have hmem : ∀ c : Char, ¬ c.isDigit → c ∈ numberedName extension 1 name →
      c ∈ numberedName extension number name :=
    fun c hc hfirst => (mem_numberedName_iff hc).2 ((mem_numberedName_iff hc).1 hfirst)
  have hone : Text.byteLength (Text.ofNatPadded 3 1) = 3 := by decide
  have hlength : 3 ≤ Text.byteLength (Text.ofNatPadded 3 number) := by
    refine Nat.le_trans ?_ (Text.length_le_byteLength _)
    rw [Text.ofNatPadded, List.length_leftpad]
    omega
  have hle := h.length_le
  refine ⟨fun hnul => h.no_nul (hmem _ (by decide) hnul),
    fun hslash => h.no_slash (hmem _ (by decide) hslash), ?_⟩
  rw [numberedName, Text.byteLength_append] at hle ⊢
  omega

/-- What a numbered document is written to has a name that can be given to a file. -/
theorem Document.isFileName_of_placed {d : Document} (hnumbered : d.settings.numbered)
    {fs : FileSystem} {number : Nat} {place : Option Location}
    (h : Placed fs (.written (d.target number)) place)
    (hslash : '/' ∉ numberedName d.settings.extension number d.name) :
    IsFileName (numberedName d.settings.extension number d.name) := by
  obtain ⟨dir, name, hleads, -⟩ := h
  -- The name is the last stretch of the path, at which the route has looked.
  obtain ⟨hlast, hname⟩ := hleads.route.getLast?_segments
  have hnul := hleads.no_nul
  rcases text_target hnumbered number with htext | ⟨before, htext⟩
  · rw [htext, Text.splitOn_of_not_mem hslash] at hlast
    rw [htext] at hnul
    obtain rfl := Option.some.inj hlast
    exact ⟨hnul, hslash, hname.length_le⟩
  · rw [htext, Text.splitOn_append, Text.splitOn_of_not_mem hslash, List.getLast?_concat] at hlast
    rw [htext] at hnul
    obtain rfl := Option.some.inj hlast
    exact ⟨fun hmem => hnul (List.mem_append_right _ (List.mem_cons_of_mem _ hmem)), hslash,
      hname.length_le⟩

/-- A numbered name that can be given to a file is a stretch of a path that names an entry. -/
theorem isName_numberedName {extension name : Text} {number : Nat}
    (h : IsFileName (numberedName extension number name)) :
    IsName (numberedName extension number name) := by
  obtain ⟨c, t, heq, hc⟩ := exists_numberedName_eq_cons extension number name
  have hne : c ≠ '.' := by
    rintro rfl
    exact absurd hc (by decide)
  have hlength := h.length_le
  rw [heq] at hlength ⊢
  exact ⟨List.cons_ne_nil c t, fun heq => hne (List.cons.inj heq).1,
    fun heq => hne (List.cons.inj heq).1, hlength⟩

/-! ## Two documents that look first -/

namespace Race

/-- The output directory. -/
def out : Text :=
  "out".toList

/-- A document without content. -/
def draft (extension name : Text) : Document :=
  ⟨{ dir := ⟨out⟩, givenExtension := extension }, name, []⟩

/-- An address in the output directory. -/
def temp (n : Nat) : Location :=
  [out, Document.tempName n]

/-- The tree once two documents have their temporary files. -/
def staged : FileSystem :=
  ⟨.directory [(out, .directory [(Document.tempName 0, .file []),
    (Document.tempName 1, .file [])])], []⟩

/-- Both documents have looked for a number before either claims one. -/
theorem run_to_claims (extension a b : Text) :
    (Pool.start ⟨.empty, []⟩ [draft extension a, draft extension b]).run [0, 1, 0, 1, 0, 1]
      = ⟨staged, [(draft extension a, .claiming (temp 0) 1 16),
          (draft extension b, .claiming (temp 1) 1 16)]⟩ := by
  cbv

variable {extension name : Text}

/-- The extension of a draft is the one that it was given. -/
theorem extension_draft (hextension : extension.head? ≠ some '.') :
    (draft extension name).settings.extension = extension := by
  rw [OutputSettings.extension, draft]
  cases extension with
  | nil => rfl
  | cons c s =>
    have hc : ¬ c = '.' := by simpa using hextension
    simp [hc]

/-- The path of a draft leads to its name in the output directory. -/
theorem leads_draft (hextension : extension.head? ≠ some '.')
    (hname : IsFileName (numberedName extension 1 name)) :
    staged.Leads ((draft extension name).target 1) [out] (numberedName extension 1 name) := by
  have hjoin : Path.join ⟨out⟩ ⟨numberedName extension 1 name⟩
      = ⟨out ++ '/' :: numberedName extension 1 name⟩ := by
    rw [Path.join, if_neg (numberedName_not_absolute _ _ _)]
    rfl
  have htarget : (draft extension name).target 1
      = ⟨out ++ '/' :: numberedName extension 1 name⟩ := by
    rw [Document.target_eq rfl, extension_draft hextension]
    exact hjoin
  have hshort : Text.byteLength out = 3 := by decide
  have hnul : '\x00' ∉ out := by decide
  have hout : IsName out := ⟨by decide, by decide, by decide, by decide⟩
  rw [htarget]
  refine ⟨?_, ?_, ?_, ?_⟩
  · simp [hnul, hname.no_nul]
  · simp
  · have hslash : '/'.utf8Size = 1 := by decide
    have hle := hname.length_le
    simp only [Text.byteLength_append, Text.byteLength_cons, hshort, hslash]
    simp only [FileSystem.maxNameBytes, FileSystem.maxPathBytes] at hle ⊢
    omega
  · have hslash : '/' ∉ out := by decide
    have hrelative : Path.isAbsolute ⟨out ++ '/' :: numberedName extension 1 name⟩ = false := rfl
    rw [hrelative, Text.splitOn_append, Text.splitOn_of_not_mem hslash,
      Text.splitOn_of_not_mem hname.no_slash]
    exact .down rfl hout rfl (.last rfl (isName_numberedName hname))

/-- Nothing in the output directory has the name of a draft. -/
theorem vacant_draft (extension name : Text) :
    staged.view ([out] ++ [numberedName extension 1 name]) = none := by
  obtain ⟨c, t, heq, hc⟩ := exists_numberedName_eq_cons extension 1 name
  have hne : c ≠ '.' := by
    rintro rfl
    exact absurd hc (by decide)
  have hdir : staged.top.get? [out] = some (.directory [(Document.tempName 0, .file []),
    (Document.tempName 1, .file [])]) := rfl
  rw [FileSystem.view, Node.view_child hdir, heq, Node.child?]
  refine congrArg _ (Node.lookup_eq_none ?_)
  simp [Node.entries, Document.tempName, hne]

/-- Both claims succeed, since they are about different paths. -/
theorem run_of_ne {extension a b : Text} (hextension : extension.head? ≠ some '.') (hab : a ≠ b)
    (ha : IsFileName (numberedName extension 1 a)) (hb : IsFileName (numberedName extension 1 b)) :
    ((Pool.start ⟨.empty, []⟩ [draft extension a, draft extension b]).run
        ([0, 1, 0, 1, 0, 1] ++ [0, 1])).writers.map Prod.snd
      = [.written ((draft extension a).target 1), .written ((draft extension b).target 1)] := by
  -- The tree is sound since a run has led to it.
  have hsound : staged.Sound := by
    have hnumbered : ∀ d ∈ [draft extension a, draft extension b], d.settings.numbered := by
      simp [draft]
    obtain ⟨place, hintact⟩ :=
      Pool.intact_run (Pool.intact_start Pool.sound_empty hnumbered) [0, 1, 0, 1, 0, 1]
    rw [run_to_claims] at hintact
    exact hintact.sound
  have hfirst : staged.view (temp 0) = some (.file []) := rfl
  have hleads := leads_draft hextension ha
  have hmove := FileSystem.shifts_move hsound hfirst hleads.route.view_dir
    (vacant_draft extension a)
  have hrename := FileSystem.rename_of_leads hleads (vacant_draft extension a) (temp 0) false
  generalize (staged.put (temp 0) none).put ([out] ++ [numberedName extension 1 a])
    (staged.top.get? (temp 0)) = claimed at hmove hrename
  -- The second name is still vacant once the first one is taken.
  have hvacant : claimed.view ([out] ++ [numberedName extension 1 b]) = none := by
    have hne : numberedName extension 1 a ≠ numberedName extension 1 b := by
      intro heq
      have htail := List.append_cancel_left heq
      exact hab (List.append_cancel_right (List.cons.inj htail).2)
    rw [hmove.view, if_neg (by simpa using hne)]
    split
    · rfl
    · exact vacant_draft extension b
  have hleads' := (leads_draft hextension hb).mono hmove.cwd
    (hmove.relocates.keepsWays fun l hl => Option.some.inj hl ▸ hfirst)
  have hrename' := FileSystem.rename_of_leads hleads' hvacant (temp 1) false
  generalize (claimed.put (temp 1) none).put ([out] ++ [numberedName extension 1 b])
    (claimed.top.get? (temp 1)) = done at hrename'
  have hone : Pool.step ⟨staged, [(draft extension a, .claiming (temp 0) 1 16),
      (draft extension b, .claiming (temp 1) 1 16)]⟩ 0
      = ⟨claimed, [(draft extension a, .written ((draft extension a).target 1)),
          (draft extension b, .claiming (temp 1) 1 16)]⟩ := by
    rw [Pool.step, List.getElem?_cons_zero]
    simp only
    rw [Document.step_claiming hrename, List.set_cons_zero]
  have htwo : Pool.step ⟨claimed, [(draft extension a, .written ((draft extension a).target 1)),
      (draft extension b, .claiming (temp 1) 1 16)]⟩ 1
      = ⟨done, [(draft extension a, .written ((draft extension a).target 1)),
          (draft extension b, .written ((draft extension b).target 1))]⟩ := by
    rw [Pool.step, List.getElem?_cons_succ, List.getElem?_cons_zero]
    simp only
    rw [Document.step_claiming hrename', List.set_cons_succ, List.set_cons_zero]
  rw [Pool.run_append, run_to_claims, Pool.run, List.foldl_cons, List.foldl_cons, List.foldl_nil,
    hone, htwo]
  rfl

end Race

/-! ## Exclusive numbers -/

/-- Numbers are exclusive between documents with the same name and between documents one of which
cannot be written, and not otherwise. -/
theorem exclusive_iff {extension a b : Text} (hextension : extension.head? ≠ some '.')
    (hslash : '/' ∉ extension) (ha : '/' ∉ a) (hb : '/' ∉ b) :
    Exclusive extension a b ↔ a = b ∨ ¬ IsFileName (numberedName extension 1 a) ∨
      ¬ IsFileName (numberedName extension 1 b) := by
  constructor
  · -- Otherwise, two documents look for a number in an empty directory at the same time.
    intro h
    by_contra hnot
    simp only [not_or, not_not] at hnot
    obtain ⟨hab, hfirst, hsecond⟩ := hnot
    exact h (Race.draft extension a) (Race.draft extension b) rfl rfl rfl
      (Race.extension_draft hextension) (Race.extension_draft hextension) rfl rfl _
      Pool.sound_empty _ 1 1 (Race.run_of_ne hextension hab hfirst hsecond) rfl
  · intro h d e hd he hdir hextd hexte hnamed hnamee fs hfs schedule m n hrun hmn
    subst hmn
    have hnumbered : ∀ d' ∈ [d, e], d'.settings.numbered := by simp [hd, he]
    obtain ⟨place, hintact⟩ := Pool.intact_run (Pool.intact_start hfs hnumbered) schedule
    have hdocs := Pool.docs_run_start fs [d, e] schedule
    have hfirst := Pool.getElem?_writers (i := 0) (by rw [hdocs]; rfl) (by rw [hrun]; rfl)
    have hsecond := Pool.getElem?_writers (i := 1) (by rw [hdocs]; rfl) (by rw [hrun]; rfl)
    rcases h with hab | hnot | hnot
    · -- Documents with one name and one number would share a path.
      refine hintact.written_ne Nat.zero_ne_one hfirst hsecond ?_
      rw [Document.target_eq hd, Document.target_eq he, hdir, hextd, hexte, hnamed, hnamee, hab]
    · -- A document that is written has a name that a file can have.
      have hname := Document.isFileName_of_placed hd (hintact.placed 0 d _ hfirst)
        (slash_not_mem_numberedName (hextd ▸ hslash) (hnamed ▸ ha) m)
      rw [hextd, hnamed] at hname
      exact hnot (isFileName_first hname)
    · have hname := Document.isFileName_of_placed he (hintact.placed 1 e _ hsecond)
        (slash_not_mem_numberedName (hexte ▸ hslash) (hnamee ▸ hb) m)
      rw [hexte, hnamee] at hname
      exact hnot (isFileName_first hname)

/-- Two notes with one name never get the same number. -/
theorem exclusive_notes :
    "md".toList.head? ≠ some '.' ∧ '/' ∉ "md".toList ∧ '/' ∉ "note".toList ∧
      Exclusive "md".toList "note".toList "note".toList := by
  have hextension : "md".toList.head? ≠ some '.' := by decide
  have hslash : '/' ∉ "md".toList := by decide
  have hname : '/' ∉ "note".toList := by decide
  exact ⟨hextension, hslash, hname, (exclusive_iff hextension hslash hname hname).2 (.inl rfl)⟩

/-- Two documents that are written one after the other get the same number if the name of the first
one has a line feed in it: the name of its file is then not taken for one with a number. -/
theorem not_exclusive_line_feed : ¬ Exclusive "md".toList "a\nb".toList "c".toList := by
  intro h
  have hrun : ((Pool.start ⟨.empty, []⟩ [Race.draft "md".toList "a\nb".toList,
      Race.draft "md".toList "c".toList]).run [0, 0, 0, 0, 1, 1, 1, 1]).writers.map Prod.snd
      = [.written ⟨"out/001-a\nb.md".toList⟩, .written ⟨"out/001-c.md".toList⟩] := by
    cbv
  exact h (Race.draft "md".toList "a\nb".toList) (Race.draft "md".toList "c".toList) rfl rfl rfl rfl
    rfl rfl rfl _ Pool.sound_empty _ 1 1 hrun rfl

end Stencil
