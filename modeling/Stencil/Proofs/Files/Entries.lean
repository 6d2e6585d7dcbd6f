import Stencil.Proofs.Files.Below

/-!
# Entries of a directory

What a path comes to that goes on behind the path of a directory with a single name. It is the entry
of this name or the vacant place for it, unless the path cannot be followed at all (`find_entry`).
The names in the directory are those of the entries that are there (`Opens.mem_names_iff`).
-/

namespace Stencil

/-- A text that is a single stretch of a path and leads down, even if no entry can have it as its
name. -/
structure LeadsDown (s : Text) : Prop where
  no_slash : '/' ∉ s
  ne_nil : s ≠ []
  ne_here : s ≠ ['.']
  ne_up : s ≠ ['.', '.']

/-! ## Going on behind a node -/

namespace Reaches

variable {top : Node} {goal spot : Location} {links : Nat} {segments : List Text}

/-- What goes on behind a node is followed from there. -/
theorem follow_append (h : Reaches top true goal links spot segments) :
    ∃ links', ∀ followLast rest, rest ≠ [] →
      FileSystem.follow top followLast links spot (segments ++ rest)
        = FileSystem.follow top followLast links' goal rest := by
  induction h with
  | here _ => exact ⟨_, fun _ _ _ => rfl⟩
  | idle hspot hidle _ ih =>
    obtain ⟨links', ih⟩ := ih
    refine ⟨links', fun followLast rest hrest => ?_⟩
    rw [List.cons_append, Route.follow_idle hspot hidle, ih followLast rest hrest]
  | up hspot _ ih =>
    obtain ⟨links', ih⟩ := ih
    refine ⟨links', fun followLast rest hrest => ?_⟩
    rw [List.cons_append, Route.follow_up hspot, ih followLast rest hrest]
  | down hspot hname hdown hlink _ ih =>
    obtain ⟨links', ih⟩ := ih
    obtain ⟨m, hm, rfl⟩ := Option.map_eq_some_iff.1 hdown
    refine ⟨links', fun followLast rest hrest => ?_⟩
    rw [List.cons_append, Route.follow_cons hspot hname, hm]
    cases m with
    | link target => exact absurd rfl (hlink target)
    | _ => exact ih followLast rest hrest
  | link hspot hname hlink _ _ ih =>
    obtain ⟨links', ih⟩ := ih
    obtain ⟨m, hm, hlabel⟩ := Option.map_eq_some_iff.1 hlink
    refine ⟨links', fun followLast rest hrest => ?_⟩
    rw [List.cons_append, Route.follow_cons hspot hname, hm]
    cases m with
    | link target =>
      cases hlabel
      simp only [List.append_eq_nil_iff, hrest, and_false, false_and, if_false]
      rw [← List.append_assoc, ih followLast rest hrest]
    | _ => cases hlabel
  | last _ _ _ hfollow _ => cases hfollow

/-- What is come to over a link at the very end is the link if this is not followed. -/
theorem unfollowed (h : Reaches top true goal links spot segments) :
    ∃ goal', Reaches top false goal' links spot segments := by
  induction h with
  | here hgoal => exact ⟨_, .here hgoal⟩
  | idle hspot hidle _ ih =>
    obtain ⟨goal', ih⟩ := ih
    exact ⟨goal', .idle hspot hidle ih⟩
  | up hspot _ ih =>
    obtain ⟨goal', ih⟩ := ih
    exact ⟨goal', .up hspot ih⟩
  | down hspot hname hdown hlink _ ih =>
    obtain ⟨goal', ih⟩ := ih
    exact ⟨goal', .down hspot hname hdown hlink ih⟩
  | @link _ spot segment target rest hspot hname hlink _ _ ih =>
    by_cases hrest : rest = []
    · subst hrest
      exact ⟨_, .last hspot hname hlink rfl rfl⟩
    · obtain ⟨goal', ih⟩ := ih
      exact ⟨goal', .link hspot hname hlink (.inl hrest) ih⟩
  | last _ _ _ hfollow _ => cases hfollow

end Reaches

namespace FileSystem

variable {fs fs' : FileSystem} {p : Path} {spot : Location} {es : List (Text × Node)}

/-! ## Directories -/

/-- A path comes to the directory at an address, which has these entries. -/
structure Opens (fs : FileSystem) (p : Path) (spot : Location) (es : List (Text × Node)) :
    Prop where
  finds : fs.Finds true p spot
  get? : fs.top.get? spot = some (.directory es)

/-- The directory is seen at its address. -/
theorem Opens.view (h : fs.Opens p spot es) : fs.view spot = some .directory :=
  Node.view_of_get? h.get?

/-- A path that comes to a directory comes to its entries. -/
theorem Finds.opens (h : fs.Finds true p spot) (hview : fs.view spot = some .directory) :
    ∃ es, fs.Opens p spot es := by
  obtain ⟨m, hm, hlabel⟩ := Option.map_eq_some_iff.1 hview
  obtain ⟨es, rfl⟩ := Node.exists_directory_of_label hlabel
  exact ⟨es, h, hm⟩

/-- The directory is found. -/
theorem Opens.stat (h : fs.Opens p spot es) : fs.stat p = .ok (.directory es) := by
  rw [FileSystem.stat, find_node_iff.2 ⟨h.finds, h.get?⟩]

/-- A directory that is found is one that the path comes to. -/
theorem exists_opens_of_stat (h : fs.stat p = .ok (.directory es)) :
    ∃ spot, fs.Opens p spot es := by
  unfold FileSystem.stat at h
  split at h
  · cases h
    obtain ⟨hfinds, hnode⟩ := find_node_iff.1 ‹_›
    exact ⟨_, hfinds, hnode⟩
  · cases h
  · cases h

/-- The names in a directory are those of its entries. -/
theorem Opens.names (h : fs.Opens p spot es) : fs.names p = .ok (es.map Prod.fst) := by
  rw [FileSystem.names, h.stat]

/-- Where the names in a directory can be read, the path comes to it. -/
theorem exists_opens_of_names {names : List Text} (h : fs.names p = .ok names) :
    ∃ spot es, fs.Opens p spot es ∧ names = es.map Prod.fst := by
  unfold FileSystem.names at h
  split at h
  · cases h
    obtain ⟨spot, hopens⟩ := exists_opens_of_stat ‹_›
    exact ⟨spot, _, hopens, rfl⟩
  · cases h
  · cases h

/-- A path is that of a directory if it comes to one. -/
theorem isDirectory_iff : fs.isDirectory p ↔ ∃ spot es, fs.Opens p spot es := by
  constructor
  · intro h
    unfold isDirectory at h
    split at h
    · rename_i n hstat
      cases n with
      | directory es =>
        obtain ⟨spot, hopens⟩ := exists_opens_of_stat hstat
        exact ⟨spot, es, hopens⟩
      | _ => cases h
    · cases h
  · rintro ⟨spot, es, h⟩
    rw [isDirectory, h.stat]
    rfl

/-- A name is in a directory if there is something at its address. -/
theorem Opens.mem_names_iff (h : fs.Opens p spot es) {name : Text} :
    name ∈ es.map Prod.fst ↔ fs.view (spot ++ [name]) ≠ none := by
  rw [FileSystem.view, Node.view_child h.get?, Node.child?, Ne, Option.map_eq_none_iff]
  constructor
  · intro hmem hnone
    obtain ⟨e, he, rfl⟩ := List.mem_map.1 hmem
    exact absurd (List.lookup_eq_none_iff.1 hnone e he) (by simp)
  · intro hsome
    by_contra hnot
    exact hsome (Node.lookup_eq_none hnot)

/-- A path comes to a directory as long as everything is kept. -/
theorem Opens.mono (h : fs.Opens p spot es) (hcwd : fs'.cwd = fs.cwd)
    (hkeep : ∀ l lab, fs.view l = some lab → fs'.view l = some lab) :
    ∃ es', fs'.Opens p spot es' :=
  (h.finds.mono hcwd hkeep).opens (hkeep _ _ h.view)

/-! ## Entries -/

/-- A single name that goes on behind a directory comes to the entry of this name or to the vacant
place for it, unless it cannot be followed: it has a NUL in it, or it makes the path or the name too
long. -/
theorem find_entry (h : fs.Opens p spot es) {name : Text} (hname : LeadsDown name) :
    (∃ e, fs.find false (p.join ⟨name⟩) = .error e ∧ e ≠ .exists ∧
        ('\x00' ∈ name ∨ maxPathBytes ≤ Text.byteLength (p.join ⟨name⟩).text ∨
          maxNameBytes < Text.byteLength name)) ∨
      (fs.view (spot ++ [name]) = none ∧
        fs.find false (p.join ⟨name⟩) = .ok (.vacant spot name false)) ∨
      ∃ n, fs.top.get? (spot ++ [name]) = some n ∧
        fs.find false (p.join ⟨name⟩) = .ok (.node (spot ++ [name]) n) := by
  have hrelative : ¬ Path.isAbsolute ⟨name⟩ := by
    intro habs
    have hhead : name.head? = some '/' := by simpa [Path.isAbsolute] using habs
    exact hname.no_slash (List.mem_of_head? hhead)
  have hidle : ¬ (name = [] ∨ name = ['.']) := not_or.2 ⟨hname.ne_nil, hname.ne_here⟩
  obtain ⟨before, htext, habsolute, hnul, hreaches⟩ := h.finds.exists_before hrelative
  by_cases hzero : '\x00' ∈ name
  · have hmem : '\x00' ∈ (p.join ⟨name⟩).text := by simp [htext, hzero]
    exact .inl ⟨_, by rw [find, if_pos hmem], by simp, .inl hzero⟩
  have hmem : '\x00' ∉ (p.join ⟨name⟩).text := by simp [htext, hzero, hnul]
  have hne : (p.join ⟨name⟩).text ≠ [] := by simp [htext]
  by_cases hlong : maxPathBytes ≤ Text.byteLength (p.join ⟨name⟩).text
  · exact .inl ⟨_, by rw [find, if_neg hmem, if_neg hne, if_pos hlong], by simp, .inr (.inl hlong)⟩
  -- The path is followed to the directory, and the name from there.
  obtain ⟨links, hfollow⟩ := hreaches.follow_append
  have hfind : fs.find false (p.join ⟨name⟩) = follow fs.top false links spot [name] := by
    rw [find, if_neg hmem, if_neg hne, if_neg hlong, habsolute, htext, Text.splitOn_append,
      Text.splitOn_of_not_mem hname.no_slash]
    exact hfollow false [name] (List.cons_ne_nil _ _)
  rw [hfind]
  by_cases hlength : maxNameBytes < Text.byteLength name
  · refine .inl ⟨.nameTooLong, ?_, by simp, .inr (.inr hlength)⟩
    rw [follow]
    simp only [h.get?, Node.isDirectory, Bool.not_true, Bool.false_eq_true, if_false, hidle,
      hname.ne_up, if_pos hlength]
  · rw [Route.follow_cons h.view (IsName.of_not hidle hname.ne_up hlength)]
    cases hget : fs.top.get? (spot ++ [name]) with
    | none =>
      refine .inr (.inl ⟨?_, rfl⟩)
      rw [FileSystem.view, Node.view, hget, Option.map_none]
    | some n =>
      refine .inr (.inr ⟨n, rfl, ?_⟩)
      cases n with
      | link target => rfl
      | _ =>
        simp only
        rw [follow, hget]

/-- Where a file is not moved to a name in a directory since there is something, the name is
taken. -/
theorem taken_of_rename (h : fs.Opens p spot es) {name : Text} (hname : LeadsDown name)
    {source : Location} (hrename : fs.rename source (p.join ⟨name⟩) false = .error .exists) :
    fs.view (spot ++ [name]) ≠ none := by
  unfold rename at hrename
  rcases find_entry h hname with ⟨e, hfind, hne, -⟩ | ⟨-, hfind⟩ | ⟨n, hn, -⟩
  · rw [hfind] at hrename
    cases e <;> cases hrename
    exact absurd rfl hne
  · rw [hfind] at hrename
    cases hrename
  · rw [FileSystem.view, Node.view, hn]
    simp

end FileSystem

end Stencil
