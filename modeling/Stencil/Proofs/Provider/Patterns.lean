import Mathlib
import Stencil.Proofs.Files.Below
import Stencil.Proofs.Files.Changes
import Stencil.Proofs.Files.Entries
import Stencil.Proofs.Files.Listing
import Stencil.Proofs.Glob.Suffix
import Stencil.Proofs.Provider.Files

/-!
# Files that a pattern matches

What the walk below the root comes to is found under the path that it is given as a candidate
(`stat_descend`), so that validation has nothing to say about a match but that it has not the
extension that the key asks for. `validate_discovered` says when it has: where the pattern spells
the extension out, every match has it, except for a file whose name is nothing but the dot and the
extension.
-/

namespace Stencil

/-! ## The walk -/

namespace FileTree

variable {files : FileSystem} {root : Path} {names : Location}

/-- What the walk comes to is a file below the node that the path of the root leads to. -/
theorem exists_of_mem_walk (h : files.Sound) (hnames : names ∈ walk files root) :
    ∃ dir bytes,
      files.Finds true root dir ∧ files.top.get? (dir ++ names) = some (.file bytes) := by
  have hbelow : ∀ {dir : Location} {n : Node}, files.top.get? dir = some n →
      names ∈ n.files (· = ignored) →
        ∃ bytes, files.top.get? (dir ++ names) = some (.file bytes) := by
    intro dir n hn hfile
    obtain ⟨bytes, hbytes⟩ := Node.get?_of_mem_files (h.wellFormed.get? hn) hfile
    exact ⟨bytes, by rw [Node.get?_append, hn]; exact hbytes⟩
  unfold walk at hnames
  split at hnames
  · split at hnames
    · obtain ⟨spot, hopens⟩ := FileSystem.exists_opens_of_stat ‹_›
      obtain ⟨bytes, hbytes⟩ := hbelow hopens.get? hnames
      exact ⟨spot, bytes, hopens.finds, hbytes⟩
    · cases hnames
  · rename_i dir n hlink hfind
    obtain ⟨hfinds, hn⟩ := FileSystem.find_node_iff.1 hfind
    obtain ⟨bytes, hbytes⟩ := hbelow hn hnames
    -- The walk begins at a node that is no link.
    refine ⟨dir, bytes, hfinds.followed hn ?_, hbytes⟩
    rintro target rfl
    exact hlink target rfl
  · cases hnames

/-- The path that the walk gives to what it comes to goes along the names behind the root. -/
theorem descend_eq (hne : names ≠ []) (hnames : ∀ name ∈ names, IsEntryName name) (root : Path) :
    descend root names = root.join (.ofNames names) := by
  induction names generalizing root with
  | nil => exact absurd rfl hne
  | cons name rest ih =>
    have hrest := fun other hother => hnames other (List.mem_cons_of_mem name hother)
    have hdescend : descend root (name :: rest) = descend (root.join ⟨name⟩) rest := rfl
    rw [hdescend]
    cases rest with
    | nil =>
      have hname : Path.ofNames [name] = ⟨name⟩ := by simp [Path.ofNames, Text.join]
      rw [hname]
      rfl
    | cons next rest =>
      rw [ih (List.cons_ne_nil _ _) hrest,
        Path.join_join (hnames name List.mem_cons_self) (Path.ofNames_relative hrest), Path.ofNames,
        Path.ofNames, Text.join_cons_cons, List.append_assoc]
      rfl

/-- What the walk comes to is found under the path that it is given. -/
theorem stat_descend (hfiles : files.Sound) (hnamed : files.top.Named) (h : names ∈ walk files root)
    (hshort : Text.byteLength (descend root names).text < FileSystem.maxPathBytes) :
    ∃ bytes, files.stat (descend root names) = .ok (.file bytes) := by
  obtain ⟨dir, bytes, hroot, hfile⟩ := exists_of_mem_walk hfiles h
  refine ⟨bytes, ?_⟩
  by_cases hne : names = []
  · -- The root itself is a file.
    subst hne
    rw [List.append_nil] at hfile
    have hdescend : descend root [] = root := rfl
    rw [hdescend, FileSystem.stat, FileSystem.find_node_iff.2 ⟨hroot, hfile⟩]
  · have hnames := hnamed.of_get? hfile
    rw [descend_eq hne hnames] at hshort ⊢
    exact FileSystem.stat_below hroot hfile hne hnames hshort

/-! ## Matches -/

variable {context : Context} {key : Text} {parts : List Glob.Part}

/-- Where a pattern ends in plain characters without a slash, so does the name of every file that it
matches. -/
theorem fileName?_of_isMatch {before : List Glob.Part} {tail : Text} (htail : tail ≠ [])
    (hslash : '/' ∉ tail) (hnames : ∀ name ∈ names, IsEntryName name)
    (hmatch : Glob.isMatch true (before ++ tail.map .literal) (Text.join ['/'] names)) :
    ∃ piece, (descend root names).fileName? = some (piece ++ tail) := by
  obtain ⟨s, hs⟩ := Glob.exists_append_of_isMatch htail hmatch
  have hne : names ≠ [] := by
    rintro rfl
    exact htail (List.append_eq_nil_iff.1 hs.symm).2
  obtain ⟨piece, hpiece⟩ := Text.exists_getLast?_splitOn_append hslash s
  have hlast : names.getLast? = some (piece ++ tail) := by
    rw [← Path.splitOn_ofNames hne hnames, Path.ofNames, hs, hpiece]
  exact ⟨piece, by rw [descend_eq hne hnames, Path.fileName?_join_ofNames root hnames hlast]⟩

/-- A file that a pattern matches is accepted exactly if it has the extension that the key asks for.
If the pattern spells the extension out, it has it, unless its name is nothing but the dot and the
extension. -/
theorem validate_discovered (hfiles : context.world.files.Sound)
    (hnamed : context.world.files.top.Named) (hpattern : isPattern key)
    (hparts : Glob.parse (relative key) = .ok parts) :
    ∃ found, discover context key = .ok found ∧ ∀ c ∈ found, ∃ p, c = .path p ∧
      (Text.byteLength p.text < FileSystem.maxPathBytes →
        (validate context c key = .accepted ↔
          ∀ e, expectedExtension? key = some e → PathFilter.hasExtension p e) ∧
        ∀ e before, expectedExtension? key = some e →
          parts = before ++ ('.' :: e).map .literal →
          (validate context c key = .accepted ↔ p.fileName? ≠ some ('.' :: e))) := by
  refine ⟨_, discover_pattern hpattern hparts, fun c hc => ?_⟩
  obtain ⟨names, hnames, rfl⟩ := List.mem_map.1 hc
  obtain ⟨hwalk, hmatch⟩ := List.mem_filter.1 hnames
  refine ⟨_, rfl, fun hshort => ?_⟩
  obtain ⟨bytes, hstat⟩ := stat_descend hfiles hnamed hwalk hshort
  have haccepted := validate_file hstat key
  refine ⟨haccepted, fun e before hexpected hspelled => ?_⟩
  obtain ⟨dir, _, -, hfile⟩ := exists_of_mem_walk hfiles hwalk
  obtain ⟨hdot, hslash⟩ := Path.not_mem_extension? (extension?_of_expected hexpected)
  rw [hspelled] at hmatch
  obtain ⟨piece, hname⟩ := fileName?_of_isMatch (List.cons_ne_nil '.' e)
    (by simpa using hslash) (hnamed.of_get? hfile) hmatch
  have hextension := Path.extension?_of_fileName? hname hdot
  rw [haccepted, hname, hexpected]
  by_cases hpiece : piece = []
  · subst hpiece
    simp [PathFilter.hasExtension, hextension]
  · have hlength : piece ++ '.' :: e ≠ '.' :: e := by simpa using hpiece
    simp [PathFilter.hasExtension, hextension, hpiece, hlength, PathFilter.sameIgnoringCase]

/-- A file with an extension in the working directory. -/
def lone : Context :=
  ⟨⟨['.']⟩, ⟨⟨.directory [("a.b".toList, .file [])], []⟩, ⟨[]⟩, ⟨0, 0, 0⟩⟩⟩

/-- The file is in a sound tree. -/
theorem sound_lone : lone.world.files.Sound := by
  refine ⟨Node.wellFormed_of_entries (by simp) ?_, rfl⟩
  simp only [List.mem_singleton, forall_eq]
  exact Node.IsLeaf.wellFormed rfl

/-- The file has a name that a file can have. -/
theorem named_lone : lone.world.files.top.Named := by
  refine Node.named_of_entries ?_
  simp only [List.mem_singleton, forall_eq]
  exact ⟨by decide, Node.IsLeaf.named rfl⟩

/-- A star and an extension accept what they match. -/
theorem validate_discovered_star :
    let key := "*.b".toList
    let parts := [.many] ++ ".b".toList.map .literal
    lone.world.files.Sound ∧ lone.world.files.top.Named ∧ isPattern key ∧
      Glob.parse (relative key) = .ok parts ∧
      discover lone key = .ok [.path ⟨"./a.b".toList⟩] ∧
      validate lone (.path ⟨"./a.b".toList⟩) key = .accepted := by
  intro key parts
  have hpattern : isPattern key := by decide
  have hparts : Glob.parse (relative key) = .ok parts := by cbv
  have hdiscover : discover lone key = .ok [.path ⟨"./a.b".toList⟩] := by cbv
  have hexpected : expectedExtension? key = some "b".toList := by decide
  obtain ⟨found, hfound, hcandidates⟩ :=
    validate_discovered sound_lone named_lone hpattern hparts
  rw [hdiscover] at hfound
  cases hfound
  obtain ⟨p, hp, hvalidate⟩ := hcandidates _ List.mem_cons_self
  cases hp
  obtain ⟨-, hspelled⟩ := hvalidate (by decide)
  exact ⟨sound_lone, named_lone, hpattern, hparts, hdiscover,
    (hspelled _ _ hexpected rfl).2 (by decide)⟩

/-- With the name in a group, the key asks for an extension with the brace that ends the group, and
what it matches is not accepted. -/
theorem not_all_discovered_accepted :
    ¬ ∀ (context : Context) (key : Text) (parts : List Glob.Part), context.world.files.Sound →
      context.world.files.top.Named → isPattern key → Glob.parse (relative key) = .ok parts →
      ∃ found, discover context key = .ok found ∧
        ∀ c ∈ found, validate context c key = .accepted := by
  intro hall
  have hdiscover : discover lone "\x7ba.b\x7d".toList = .ok [.path ⟨"./a.b".toList⟩] := by cbv
  have hvalidate : validate lone (.path ⟨"./a.b".toList⟩) "\x7ba.b\x7d".toList
      = .message "Expected a .b\x7d file but resolved a.b".toList := by cbv
  obtain ⟨parts, hparts⟩ : ∃ parts, Glob.parse (relative "\x7ba.b\x7d".toList) = .ok parts :=
    ⟨_, by cbv⟩
  obtain ⟨found, hfound, haccepted⟩ :=
    hall lone "\x7ba.b\x7d".toList parts sound_lone named_lone (by decide) hparts
  rw [hdiscover] at hfound
  cases hfound
  cases hvalidate.symm.trans (haccepted _ List.mem_cons_self)

end FileTree

end Stencil
