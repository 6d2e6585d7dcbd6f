import Stencil.Files.System
import Stencil.Proofs.Files.Tree

/-!
# Where paths lead

`find` reads a path through directories and links. `Follows` says what it does with each stretch of
the path, so that whatever holds of what is found is shown by induction on it. A `Route` says the
same of a path that ends in a name: through directories and links alone, it comes to a directory,
where the name may or may not stand for something. Since a route depends on nothing but the
directories and links on it, it stays one as long as these are kept (`Route.mono`), whatever happens
to other files. Where `find` comes to a vacant place there is a route (`leads_of_find`), and where a
route ends, `find` comes to the file that is there, or to the vacant place (`find_of_file`,
`find_of_vacant`).
-/

namespace Stencil

namespace Node

/-- The label of a node that is there. -/
theorem view_of_get? {n m : Node} {l : Location} (h : n.get? l = some m) :
    n.view l = some m.label := by
  rw [view, h, Option.map_some]

/-- A node that is a directory has the label of one. -/
theorem label_of_isDirectory {n : Node} (h : n.isDirectory) : n.label = .directory := by
  cases n with
  | directory es => rfl
  | _ => cases h

/-- A node that is taken for a directory on the way is seen as one. -/
theorem view_of_isDirectory {n here : Node} {l : Location} (h : n.get? l = some here)
    (hdir : ¬ (!here.isDirectory) = true) : n.view l = some .directory := by
  rw [view_of_get? h, label_of_isDirectory (by simpa using hdir)]

/-- The entry of a directory, as it is seen at its address. -/
theorem view_child {n m : Node} {dir : Location} (h : n.get? dir = some m) (name : Text) :
    n.view (dir ++ [name]) = (m.child? name).map label := by
  rw [view, get?_append_singleton h]

end Node

/-! ## Following -/

/-- A stretch of a path that names an entry. -/
structure IsName (s : Text) : Prop where
  ne_nil : s ≠ []
  ne_here : s ≠ ['.']
  ne_up : s ≠ ['.', '.']
  length_le : Text.byteLength s ≤ FileSystem.maxNameBytes

/-- A stretch is a name unless it is idle, leads up, or is too long. -/
theorem IsName.of_not {s : Text} (hidle : ¬ (s = [] ∨ s = ['.'])) (hup : s ≠ ['.', '.'])
    (hlong : ¬ FileSystem.maxNameBytes < Text.byteLength s) : IsName s :=
  ⟨fun h => hidle (.inl h), fun h => hidle (.inr h), hup, Nat.le_of_not_lt hlong⟩

/-- The stretches are followed from an address to a target, one constructor for each kind of
stretch. A link at the very end is followed only if `followLast` says so. -/
inductive Follows (top : Node) (followLast : Bool) (t : Target) : Nat → Location → List Text → Prop
  | here {links : Nat} {spot : Location} {n : Node} : top.get? spot = some n → t = .node spot n →
      Follows top followLast t links spot []
  | idle {links : Nat} {spot : Location} {segment : Text} {rest : List Text} :
      top.view spot = some .directory → segment = [] ∨ segment = ['.'] →
      Follows top followLast t links spot rest →
      Follows top followLast t links spot (segment :: rest)
  | up {links : Nat} {spot : Location} {rest : List Text} :
      top.view spot = some .directory → Follows top followLast t links spot.dropLast rest →
      Follows top followLast t links spot (['.', '.'] :: rest)
  | vacant {links : Nat} {spot : Location} {segment : Text} {rest : List Text} :
      top.view spot = some .directory → IsName segment → top.view (spot ++ [segment]) = none →
      rest.all List.isEmpty → t = .vacant spot segment (!rest.isEmpty) →
      Follows top followLast t links spot (segment :: rest)
  | last {links : Nat} {spot : Location} {segment target : Text} :
      top.view spot = some .directory → IsName segment →
      top.get? (spot ++ [segment]) = some (.link target) → followLast = false →
      t = .node (spot ++ [segment]) (.link target) → Follows top followLast t links spot [segment]
  | link {links : Nat} {spot : Location} {segment target : Text} {rest : List Text} :
      top.view spot = some .directory → IsName segment →
      top.view (spot ++ [segment]) = some (.link target) → rest ≠ [] ∨ followLast = true →
      Follows top followLast t links (if target.head? = some '/' then [] else spot)
        (Text.splitOn '/' target ++ rest) →
      Follows top followLast t (links + 1) spot (segment :: rest)
  | down {links : Nat} {spot : Location} {segment : Text} {lab : Label} {rest : List Text} :
      top.view spot = some .directory → IsName segment →
      top.view (spot ++ [segment]) = some lab → (∀ target, lab ≠ .link target) →
      Follows top followLast t links (spot ++ [segment]) rest →
      Follows top followLast t links spot (segment :: rest)

/-- What `follow` comes to is what the stretches are followed to. -/
theorem Follows.of_follow {top : Node} {followLast : Bool} {links : Nat} {spot : Location}
    {segments : List Text} {t : Target}
    (h : FileSystem.follow top followLast links spot segments = .ok t) :
    Follows top followLast t links spot segments := by
  have hchild : ∀ {l : Location} {here m : Node} {segment : Text}, top.get? l = some here →
      here.child? segment = some m → top.view (l ++ [segment]) = some m.label := by
    intro l here m segment hhere hm
    rw [Node.view_child hhere, hm, Option.map_some]
  -- A link is followed unless it is at the very end and is to be kept.
  have hon : ∀ {rest : List Text}, ¬ (rest = [] ∧ (!followLast) = true) →
      rest ≠ [] ∨ followLast = true := by
    intro rest hend
    by_cases hrest : rest = []
    · exact .inr (by simpa [hrest] using hend)
    · exact .inl hrest
  -- Every case but those below ends in an error.
  fun_induction FileSystem.follow top followLast links spot segments with
  | case1 _ _ _ hn =>
    cases h
    exact .here hn rfl
  | case5 _ _ _ _ _ hhere hdir hidle ih =>
    exact .idle (Node.view_of_isDirectory hhere hdir) hidle (ih h)
  | case6 _ _ _ _ hhere hdir _ ih => exact .up (Node.view_of_isDirectory hhere hdir) (ih h)
  | case8 _ _ _ _ _ hhere hdir hidle hup hlong hnone hrest =>
    cases h
    refine .vacant (Node.view_of_isDirectory hhere hdir) (.of_not hidle hup hlong) ?_ hrest rfl
    rw [Node.view_child hhere, hnone, Option.map_none]
  | case10 _ _ segment _ _ hhere hdir hidle hup hlong target hlink hend =>
    cases h
    obtain ⟨rfl, hkept⟩ := hend
    exact .last (Node.view_of_isDirectory hhere hdir) (.of_not hidle hup hlong)
      ((Node.get?_append_singleton hhere segment).trans hlink) (by simpa using hkept) rfl
  | case12 _ _ _ _ hhere hdir hidle hup hlong _ hlink hend _ _ hroot ih =>
    refine .link (Node.view_of_isDirectory hhere hdir) (.of_not hidle hup hlong)
      (hchild hhere hlink) (hon hend) ?_
    rw [if_pos hroot]
    exact ih h
  | case13 _ _ _ _ hhere hdir hidle hup hlong _ hlink hend _ _ hroot ih =>
    refine .link (Node.view_of_isDirectory hhere hdir) (.of_not hidle hup hlong)
      (hchild hhere hlink) (hon hend) ?_
    rw [if_neg hroot]
    exact ih h
  | case14 _ _ _ _ _ hhere hdir hidle hup hlong below hnolink hbelow ih =>
    refine .down (Node.view_of_isDirectory hhere hdir) (.of_not hidle hup hlong)
      (hchild hhere hbelow) (fun target hlabel => ?_) (ih h)
    cases below with
    | link target => exact hnolink target rfl
    | _ => cases hlabel
  | _ => cases h

/-- A node that is found is there, and a vacant place is one in a directory. -/
def Target.Fits (top : Node) : Target → Prop
  | .node spot n => top.get? spot = some n
  | .vacant dir name _ => top.view dir = some .directory ∧ top.view (dir ++ [name]) = none

/-- What the stretches are followed to fits the tree. -/
theorem Follows.fits {top : Node} {followLast : Bool} {links : Nat} {spot : Location}
    {segments : List Text} {t : Target} (h : Follows top followLast t links spot segments) :
    t.Fits top := by
  induction h with
  | here hn ht =>
    subst ht
    exact hn
  | vacant hspot _ hnone _ ht =>
    subst ht
    exact ⟨hspot, hnone⟩
  | last _ _ hlink _ ht =>
    subst ht
    exact hlink
  | idle _ _ _ ih => exact ih
  | up _ _ ih => exact ih
  | link _ _ _ _ _ ih => exact ih
  | down _ _ _ _ _ ih => exact ih

namespace FileSystem

variable {fs : FileSystem} {followLast : Bool} {p : Path} {t : Target}

/-- A path comes to a target if there is nothing to keep it back and it is followed there. -/
theorem find_eq_ok_iff : fs.find followLast p = .ok t ↔
    '\x00' ∉ p.text ∧ p.text ≠ [] ∧ Text.byteLength p.text < maxPathBytes ∧
      follow fs.top followLast maxLinks (if p.isAbsolute then [] else fs.cwd)
        (Text.splitOn '/' p.text) = .ok t := by
  constructor
  · intro h
    unfold find at h
    split at h
    · cases h
    · split at h
      · cases h
      · split at h
        · cases h
        · exact ⟨‹_›, ‹_›, Nat.lt_of_not_le ‹_›, h⟩
  · rintro ⟨hnul, hne, hshort, hfollow⟩
    rw [find, if_neg hnul, if_neg hne, if_neg (Nat.not_le.2 hshort), hfollow]

/-- What is found fits the tree. -/
theorem find_fits (h : fs.find followLast p = .ok t) : t.Fits fs.top := by
  obtain ⟨-, -, -, hfollow⟩ := find_eq_ok_iff.1 h
  exact (Follows.of_follow hfollow).fits

end FileSystem

/-! ## Routes -/

/-- The stretches lead from an address through directories and links to the directory at `dir`, and
end in `name`. -/
inductive Route (top : Node) (dir : Location) (name : Text) : Nat → Location → List Text → Prop
  | last {links : Nat} : top.view dir = some .directory → IsName name →
      Route top dir name links dir [name]
  | idle {links : Nat} {spot : Location} {segment : Text} {rest : List Text} :
      top.view spot = some .directory → segment = [] ∨ segment = ['.'] →
      Route top dir name links spot rest → Route top dir name links spot (segment :: rest)
  | up {links : Nat} {spot : Location} {rest : List Text} :
      top.view spot = some .directory → Route top dir name links spot.dropLast rest →
      Route top dir name links spot (['.', '.'] :: rest)
  | link {links : Nat} {spot : Location} {segment target : Text} {rest : List Text} :
      top.view spot = some .directory → IsName segment →
      top.view (spot ++ [segment]) = some (.link target) → rest ≠ [] →
      Route top dir name links (if target.head? = some '/' then [] else spot)
        (Text.splitOn '/' target ++ rest) →
      Route top dir name (links + 1) spot (segment :: rest)
  | down {links : Nat} {spot : Location} {segment : Text} {rest : List Text} :
      top.view spot = some .directory → IsName segment →
      top.view (spot ++ [segment]) = some .directory →
      Route top dir name links (spot ++ [segment]) rest →
      Route top dir name links spot (segment :: rest)

/-- A tree keeps the directories and links of another one. -/
def Node.KeepsWays (top top' : Node) : Prop :=
  ∀ l lab, top.view l = some lab → (lab = .directory ∨ ∃ target, lab = .link target) →
    top'.view l = some lab

namespace Route

variable {top top' : Node} {dir : Location} {name : Text} {links : Nat} {spot : Location}
  {segments : List Text}

/-- A route stays one as long as directories and links are kept. -/
theorem mono (h : Route top dir name links spot segments) (hkeep : top.KeepsWays top') :
    Route top' dir name links spot segments := by
  have hdirectory : ∀ {l}, top.view l = some .directory → top'.view l = some .directory :=
    fun hl => hkeep _ _ hl (.inl rfl)
  induction h with
  | last hdir hname => exact .last (hdirectory hdir) hname
  | idle hspot hidle _ ih => exact .idle (hdirectory hspot) hidle ih
  | up hspot _ ih => exact .up (hdirectory hspot) ih
  | link hspot hname hlink hrest _ ih =>
    exact .link (hdirectory hspot) hname (hkeep _ _ hlink (.inr ⟨_, rfl⟩)) hrest ih
  | down hspot hname hdown _ ih => exact .down (hdirectory hspot) hname (hdirectory hdown) ih

/-- A route goes from directory to directory. -/
theorem view_dir (h : Route top dir name links spot segments) : top.view dir = some .directory := by
  induction h with
  | last hdir _ => exact hdir
  | _ => assumption

/-- The name at the end of a route is the last stretch. -/
theorem getLast?_segments (h : Route top dir name links spot segments) :
    segments.getLast? = some name ∧ IsName name := by
  have hcons : ∀ {segment : Text} {rest : List Text}, rest.getLast? = some name →
      (segment :: rest).getLast? = some name := by
    intro segment rest hrest
    rw [List.getLast?_cons, hrest]
    rfl
  induction h with
  | last _ hname => exact ⟨rfl, hname⟩
  | link _ _ _ hrest _ ih =>
    -- The target goes before the rest, which is not empty.
    have hlast := List.getLast?_eq_some_getLast hrest
    rw [List.getLast?_append, hlast, Option.some_or, ← hlast] at ih
    exact ⟨hcons ih.1, ih.2⟩
  | idle _ _ _ ih => exact ⟨hcons ih.1, ih.2⟩
  | up _ _ ih => exact ⟨hcons ih.1, ih.2⟩
  | down _ _ _ _ ih => exact ⟨hcons ih.1, ih.2⟩

/-! ## Routes and what is found -/

/-- Stretches that are followed to a vacant place, without a slash behind, are a route to it. -/
theorem of_follows (h : Follows top false (.vacant dir name false) links spot segments) :
    Route top dir name links spot segments := by
  induction h with
  | here _ ht => cases ht
  | idle hspot hidle _ ih => exact .idle hspot hidle ih
  | up hspot _ ih => exact .up hspot ih
  | @vacant _ _ _ rest hspot hname _ _ ht =>
    -- A slash behind the name would have been reported with the place.
    cases rest with
    | nil =>
      cases ht
      exact .last hspot hname
    | cons next rest => cases ht
  | last _ _ _ _ ht => cases ht
  | link hspot hname hlink hon _ ih =>
    exact .link hspot hname hlink (hon.resolve_right Bool.false_ne_true) ih
  | down hspot hname hdown _ _ ih =>
    refine .down hspot hname ?_ ih
    cases ih <;> assumption

/-- Following a name from a directory on. -/
theorem follow_cons {followLast : Bool} {segment : Text} {rest : List Text}
    (hspot : top.view spot = some .directory) (hname : IsName segment) :
    FileSystem.follow top followLast links spot (segment :: rest)
      = match top.get? (spot ++ [segment]) with
        | none =>
          if rest.all List.isEmpty then .ok (.vacant spot segment !rest.isEmpty)
          else .error .notFound
        | some (.link target) =>
          if rest = [] ∧ !followLast then .ok (.node (spot ++ [segment]) (.link target))
          else
            match links with
            | 0 => .error .linkLoop
            | links + 1 =>
              FileSystem.follow top followLast links (if target.head? = some '/' then [] else spot)
                (Text.splitOn '/' target ++ rest)
        | some _ => FileSystem.follow top followLast links (spot ++ [segment]) rest := by
  obtain ⟨here, hhere, hlabel⟩ := Option.map_eq_some_iff.1 hspot
  obtain ⟨es, rfl⟩ := Node.exists_directory_of_label hlabel
  have hidle : ¬ (segment = [] ∨ segment = ['.']) := by
    rintro (h | h)
    · exact hname.ne_nil h
    · exact hname.ne_here h
  rw [Node.get?_append_singleton hhere, FileSystem.follow]
  simp only [hhere, Node.isDirectory, Bool.not_true, Bool.false_eq_true, if_false, hidle,
    hname.ne_up, Nat.not_lt.2 hname.length_le]
  cases (Node.directory es).child? segment with
  | none => rfl
  | some m =>
    cases m with
    | link target =>
      cases links with
      | zero => rfl
      | succ links =>
        by_cases hroot : target.head? = some '/'
        · simp only [if_pos hroot]
        · simp only [if_neg hroot]
    | _ => rfl

/-- Idle stretches are passed over. -/
theorem follow_idle {followLast : Bool} {segment : Text} {rest : List Text}
    (hspot : top.view spot = some .directory) (hidle : segment = [] ∨ segment = ['.']) :
    FileSystem.follow top followLast links spot (segment :: rest)
      = FileSystem.follow top followLast links spot rest := by
  obtain ⟨here, hhere, hlabel⟩ := Option.map_eq_some_iff.1 hspot
  obtain ⟨es, rfl⟩ := Node.exists_directory_of_label hlabel
  rw [FileSystem.follow]
  simp only [hhere, Node.isDirectory, Bool.not_true, Bool.false_eq_true, if_false, if_pos hidle]

/-- Two dots lead up. -/
theorem follow_up {followLast : Bool} {rest : List Text}
    (hspot : top.view spot = some .directory) :
    FileSystem.follow top followLast links spot (['.', '.'] :: rest)
      = FileSystem.follow top followLast links spot.dropLast rest := by
  obtain ⟨here, hhere, hlabel⟩ := Option.map_eq_some_iff.1 hspot
  obtain ⟨es, rfl⟩ := Node.exists_directory_of_label hlabel
  rw [FileSystem.follow]
  simp only [hhere, Node.isDirectory, Bool.not_true, Bool.false_eq_true, if_false, if_true]
  rw [if_neg (by decide)]

/-- Following a route is following the name at its end. -/
theorem follow_eq (h : Route top dir name links spot segments) (followLast : Bool) :
    ∃ links', FileSystem.follow top followLast links spot segments
      = FileSystem.follow top followLast links' dir [name] := by
  induction h with
  | last _ _ => exact ⟨_, rfl⟩
  | idle hspot hidle _ ih => rwa [follow_idle hspot hidle]
  | up hspot _ ih => rwa [follow_up hspot]
  | link hspot hname hlink hrest _ ih =>
    obtain ⟨m, hm, hlabel⟩ := Option.map_eq_some_iff.1 hlink
    obtain ⟨links', hfollow⟩ := ih
    refine ⟨links', ?_⟩
    rw [follow_cons hspot hname, hm, ← hfollow]
    cases m with
    | link target =>
      cases hlabel
      simp only [hrest, false_and, if_false]
    | _ => cases hlabel
  | down hspot hname hdown _ ih =>
    obtain ⟨m, hm, hlabel⟩ := Option.map_eq_some_iff.1 hdown
    obtain ⟨es, rfl⟩ := Node.exists_directory_of_label hlabel
    rw [follow_cons hspot hname, hm]
    exact ih

end Route

namespace FileSystem

/-- The label of the node at an address. -/
def view (fs : FileSystem) (l : Location) : Option Label :=
  fs.top.view l

variable {fs : FileSystem} {p : Path} {dir : Location} {name : Text}

/-- A path leads along a route to a name in a directory. -/
structure Leads (fs : FileSystem) (p : Path) (dir : Location) (name : Text) : Prop where
  no_nul : '\x00' ∉ p.text
  ne_nil : p.text ≠ []
  short : Text.byteLength p.text < maxPathBytes
  route : Route fs.top dir name maxLinks (if p.isAbsolute then [] else fs.cwd)
    (Text.splitOn '/' p.text)

/-- Where there is nothing to keep a path back, finding is following. -/
theorem find_eq_follow (h : fs.Leads p dir name) (followLast : Bool) :
    fs.find followLast p
      = follow fs.top followLast maxLinks (if p.isAbsolute then [] else fs.cwd)
          (Text.splitOn '/' p.text) := by
  rw [find, if_neg h.no_nul, if_neg h.ne_nil, if_neg (Nat.not_le.2 h.short)]

/-- A path that is found to end at a vacant place leads there. -/
theorem leads_of_find (h : fs.find false p = .ok (.vacant dir name false)) :
    fs.Leads p dir name := by
  obtain ⟨hnul, hne, hshort, hfollow⟩ := find_eq_ok_iff.1 h
  exact ⟨hnul, hne, hshort, .of_follows (.of_follow hfollow)⟩

/-- The file that a path leads to is found. -/
theorem find_of_file (h : fs.Leads p dir name) {bytes : List UInt8}
    (hfile : fs.view (dir ++ [name]) = some (.file bytes)) (followLast : Bool) :
    fs.find followLast p = .ok (.node (dir ++ [name]) (.file bytes)) := by
  obtain ⟨m, hm, hlabel⟩ := Option.map_eq_some_iff.1 hfile
  cases m with
  | file b =>
    cases hlabel
    obtain ⟨links, hfollow⟩ := h.route.follow_eq followLast
    have hlast := h.route.getLast?_segments
    rw [find_eq_follow h, hfollow, Route.follow_cons h.route.view_dir hlast.2, hm]
    simp only
    rw [follow, hm]
  | _ => cases hlabel

/-- The vacant place that a path leads to is found. -/
theorem find_of_vacant (h : fs.Leads p dir name) (hvacant : fs.view (dir ++ [name]) = none)
    (followLast : Bool) : fs.find followLast p = .ok (.vacant dir name false) := by
  obtain ⟨links, hfollow⟩ := h.route.follow_eq followLast
  have hlast := h.route.getLast?_segments
  rw [find_eq_follow h, hfollow, Route.follow_cons h.route.view_dir hlast.2,
    Option.map_eq_none_iff.1 hvacant]
  rfl

/-- A file that a path leads to is read. -/
theorem read_of_file (h : fs.Leads p dir name) {bytes : List UInt8}
    (hfile : fs.view (dir ++ [name]) = some (.file bytes)) : fs.read p = .ok bytes := by
  rw [read, stat, find_of_file h hfile]

end FileSystem

end Stencil
