import Stencil.Proofs.Provider.Patterns

/-!
# What a pattern discovers

The walk below a directory comes to the files that the directory lists, whether its path is that of
a link or not (`walk_eq`). Hence a pattern discovers exactly the regular files at any depth that it
matches and that are in no directory named `.git`, each once and in the order of the names on the
way (`discover_exactly`).
-/

namespace Stencil

namespace Path

/-- Paths along names of entries are different if the names are. -/
theorem ofNames_injective {l k : Location} (hl : l ≠ []) (hk : k ≠ [])
    (hlnames : ∀ name ∈ l, IsEntryName name) (hknames : ∀ name ∈ k, IsEntryName name)
    (h : ofNames l = ofNames k) : l = k := by
  rw [← splitOn_ofNames hl hlnames, h, splitOn_ofNames hk hknames]

/-- Relative paths that lead to the same path are the same. -/
theorem eq_of_join_eq {root p q : Path} (hp : ¬ p.isAbsolute) (hq : ¬ q.isAbsolute)
    (h : root.join p = root.join q) : p = q := by
  unfold join at h
  rw [if_neg hp, if_neg hq] at h
  split at h
  · exact h
  · rw [Path.mk.injEq] at h
    exact congrArg Path.mk (List.append_cancel_left h)
  · rw [Path.mk.injEq] at h
    exact congrArg Path.mk (List.cons.inj (List.append_cancel_left h)).2

end Path

namespace FileTree

variable {files : FileSystem} {root : Path} {es : List (Text × Node)}

/-- The walk comes to the files that the directory lists which the path of the root leads to. -/
theorem walk_eq (h : files.stat root = .ok (.directory es)) :
    walk files root = (Node.directory es).files (· = ignored) := by
  obtain ⟨spot, hopens⟩ := FileSystem.exists_opens_of_stat h
  obtain ⟨hnul, hne, hshort, hreaches⟩ := hopens.finds
  -- The walk looks at the root without following it.
  obtain ⟨goal, hreaches⟩ := hreaches.unfollowed
  obtain ⟨n, hfollow⟩ := hreaches.follow_eq
  have hfind := FileSystem.find_eq_ok_iff.2 ⟨hnul, hne, hshort, hfollow⟩
  obtain ⟨hgoal, hn⟩ := FileSystem.find_node_iff.1 hfind
  by_cases hlink : ∃ target, n = .link target
  · obtain ⟨target, rfl⟩ := hlink
    rw [walk, hfind]
    simp only [h]
  · -- What is no link is what following it leads to.
    have hfollowed := hgoal.followed hn fun target heq => hlink ⟨target, heq⟩
    have hfound := FileSystem.find_node_iff.2 ⟨hfollowed, hn⟩
    rw [FileSystem.find_node_iff.2 ⟨hopens.finds, hopens.get?⟩] at hfound
    cases hfound
    rw [walk, hfind]

/-- The walk comes to the regular files that are in no directory named `.git`. -/
theorem mem_walk_iff (hes : (Node.directory es).WellFormed)
    (h : files.stat root = .ok (.directory es)) {names : Location} :
    names ∈ walk files root ↔
      (∃ bytes, (Node.directory es).get? names = some (.file bytes)) ∧
        ignored ∉ names.dropLast := by
  rw [walk_eq h, Node.mem_files_iff hes]
  simp only [decide_eq_true_eq]
  exact and_congr_right fun _ =>
    ⟨fun hnames hmem => hnames ignored hmem rfl, fun hmem name hname heq => hmem (heq ▸ hname)⟩

/-- The walk goes along the names in their order. -/
theorem pairwise_walk (hes : (Node.directory es).WellFormed)
    (h : files.stat root = .ok (.directory es)) : (walk files root).Pairwise Before := by
  rw [walk_eq h]
  exact Node.pairwise_files _ _ hes

/-- There is at least one name on the way to what the walk comes to, and they all are names of
entries. -/
theorem names_of_mem_walk (hfiles : files.top.WellFormed) (hnamed : files.top.Named)
    (h : files.stat root = .ok (.directory es)) {names : Location}
    (hnames : names ∈ walk files root) : names ≠ [] ∧ ∀ name ∈ names, IsEntryName name := by
  obtain ⟨spot, hopens⟩ := FileSystem.exists_opens_of_stat h
  obtain ⟨⟨bytes, hbytes⟩, -⟩ := (mem_walk_iff (hfiles.get? hopens.get?) h).1 hnames
  constructor
  · rintro rfl
    cases hbytes
  · have hfile : files.top.get? (spot ++ names) = some (.file bytes) := by
      rw [Node.get?_append, hopens.get?]
      exact hbytes
    exact hnamed.of_get? hfile

/-! ## Discovery -/

variable {context : Context} {key : Text} {parts : List Glob.Part}

/-- A pattern discovers exactly the regular files below the root that are in no directory named
`.git` and whose path from the root it matches without the slashes at its start, each once and in
the order of the names on the way. -/
theorem discover_exactly (hfiles : context.world.files.top.WellFormed)
    (hnamed : context.world.files.top.Named)
    (hroot : context.world.files.stat context.root = .ok (.directory es))
    (hpattern : isPattern key) (hparts : Glob.parse (relative key) = .ok parts) :
    ∃ found : List Location,
      discover context key
        = .ok (found.map fun names => .path (context.root.join (.ofNames names))) ∧
      (∀ names, names ∈ found ↔
        (∃ bytes, (Node.directory es).get? names = some (.file bytes)) ∧
          ignored ∉ names.dropLast ∧ Glob.isMatch true parts (Path.ofNames names).text) ∧
      found.Pairwise Before ∧
      (found.map fun names => context.root.join (.ofNames names)).Nodup := by
  obtain ⟨spot, hopens⟩ := FileSystem.exists_opens_of_stat hroot
  have hes : (Node.directory es).WellFormed := hfiles.get? hopens.get?
  have hwalk : ∀ names ∈ walk context.world.files context.root,
      names ≠ [] ∧ ∀ name ∈ names, IsEntryName name :=
    fun _ => names_of_mem_walk hfiles hnamed hroot
  have hordered := (pairwise_walk hes hroot).filter fun names =>
    Glob.isMatch true parts (Path.ofNames names).text
  refine ⟨_, ?_, fun names => ?_, hordered, ?_⟩
  · rw [discover_pattern hpattern hparts]
    refine congrArg Except.ok (List.map_congr_left fun names hfound => ?_)
    obtain ⟨hne, hnames⟩ := hwalk _ (List.mem_of_mem_filter hfound)
    rw [descend_eq hne hnames]
  · rw [List.mem_filter, mem_walk_iff hes hroot, and_assoc]
  · refine List.pairwise_map.2 (hordered.imp_of_mem fun {l k} hl hk hbefore heq => ?_)
    obtain ⟨hlne, hlnames⟩ := hwalk _ (List.mem_of_mem_filter hl)
    obtain ⟨hkne, hknames⟩ := hwalk _ (List.mem_of_mem_filter hk)
    have hpath := Path.eq_of_join_eq (Path.ofNames_relative hlnames)
      (Path.ofNames_relative hknames) heq
    exact hbefore.ne (Path.ofNames_injective hlne hkne hlnames hknames hpath)

/-- The entries of a directory with files that a walk passes over and with two whose paths are in
another order as texts. -/
def nestedEntries : List (Text × Node) :=
  [("a-b.md".toList, .file []), (".git".toList, .directory [("c.md".toList, .file [])]),
    ("a".toList, .directory [("x.md".toList, .file []), ("t.txt".toList, .file [])]),
    ("l.md".toList, .link "a-b.md".toList)]

/-- The directory is the working directory. -/
def nested : Context :=
  ⟨⟨['.']⟩, ⟨⟨.directory nestedEntries, []⟩, ⟨[]⟩, ⟨0, 0, 0⟩⟩⟩

/-- The entries have different names. -/
theorem wellFormed_nested : nested.world.files.top.WellFormed := by
  have hleaf : (Node.file []).WellFormed := Node.IsLeaf.wellFormed rfl
  refine Node.wellFormed_of_entries (by decide) ?_
  simp only [nestedEntries, List.forall_mem_cons]
  refine ⟨hleaf, ?_, ?_, Node.IsLeaf.wellFormed rfl, by simp⟩
  · exact Node.wellFormed_of_entries (by decide) (by simpa using hleaf)
  · exact Node.wellFormed_of_entries (by decide) (by simpa using hleaf)

/-- The entries have names that entries can have. -/
theorem named_nested : nested.world.files.top.Named := by
  have hleaf : (Node.file []).Named := Node.IsLeaf.named rfl
  refine Node.named_of_entries ?_
  simp only [nestedEntries, List.forall_mem_cons]
  refine ⟨⟨by decide, hleaf⟩, ⟨by decide, ?_⟩, ⟨by decide, ?_⟩,
    ⟨by decide, Node.IsLeaf.named rfl⟩, by simp⟩
  · refine Node.named_of_entries ?_
    simp only [List.forall_mem_cons]
    exact ⟨⟨by decide, hleaf⟩, by simp⟩
  · refine Node.named_of_entries ?_
    simp only [List.forall_mem_cons]
    exact ⟨⟨by decide, hleaf⟩, ⟨by decide, hleaf⟩, by simp⟩

/-- The parts of a pattern for files at any depth. -/
theorem parse_nested :
    Glob.parse (relative "/**/*.md".toList)
      = .ok [.leading, .many, .literal '.', .literal 'm', .literal 'd'] := by
  cbv

/-- The two files are discovered. What is in `.git` is not, nor is the link. -/
theorem discover_exactly_nested :
    nested.world.files.top.WellFormed ∧ nested.world.files.top.Named ∧
      nested.world.files.stat nested.root = .ok (.directory nestedEntries) ∧
      isPattern "/**/*.md".toList ∧ (Glob.parse (relative "/**/*.md".toList)).isOk ∧
      ∃ found : List Location,
        discover nested "/**/*.md".toList
          = .ok (found.map fun names => .path (nested.root.join (.ofNames names))) ∧
        found.Pairwise Before ∧ ["a".toList, "x.md".toList] ∈ found ∧ ["a-b.md".toList] ∈ found ∧
        [".git".toList, "c.md".toList] ∉ found ∧ ["l.md".toList] ∉ found := by
  have hroot : nested.world.files.stat nested.root = .ok (.directory nestedEntries) := by cbv
  have hpattern : isPattern "/**/*.md".toList := by decide
  obtain ⟨found, hfound, hmem, hordered, -⟩ :=
    discover_exactly wellFormed_nested named_nested hroot hpattern parse_nested
  refine ⟨wellFormed_nested, named_nested, hroot, hpattern, by rw [parse_nested]; rfl, found,
    hfound, hordered, ?_⟩
  refine ⟨(hmem _).2 ⟨⟨[], by cbv⟩, by decide, by cbv⟩,
    (hmem _).2 ⟨⟨[], by cbv⟩, by decide, by cbv⟩, fun hgit => ?_, fun hlink => ?_⟩
  · exact absurd ((hmem _).1 hgit).2.1 (by decide)
  · obtain ⟨⟨bytes, hbytes⟩, -⟩ := (hmem _).1 hlink
    cases hbytes

-- The file in the directory comes first, since the name of the directory does. As texts, the paths
-- would be the other way round: a hyphen is before a slash.
example : discover nested "/**/*.md".toList
    = .ok [.path ⟨"./a/x.md".toList⟩, .path ⟨"./a-b.md".toList⟩] := by
  cbv

end FileTree

end Stencil
