import Stencil.Proofs.Files.Route

/-!
# Paths that come to a node

`Reaches` says how `follow` comes to a node, one constructor for each kind of stretch, as `Route`
does for paths that end in a name. `find_node_iff` ties it to `find`. What a path comes to depends
on nothing but what there is on the way (`Reaches.mono`), and a path that goes on behind another one
goes on from where that one comes to (`Reaches.append`, `Reaches.split`).
-/

namespace Stencil

/-- The stretches lead from an address, along which links are followed, to the node at `goal`. A
link at the very end is followed only if `followLast` says so. -/
inductive Reaches (top : Node) (followLast : Bool) (goal : Location) :
    Nat → Location → List Text → Prop
  | here {links : Nat} {lab : Label} : top.view goal = some lab →
      Reaches top followLast goal links goal []
  | idle {links : Nat} {spot : Location} {segment : Text} {rest : List Text} :
      top.view spot = some .directory → segment = [] ∨ segment = ['.'] →
      Reaches top followLast goal links spot rest →
      Reaches top followLast goal links spot (segment :: rest)
  | up {links : Nat} {spot : Location} {rest : List Text} :
      top.view spot = some .directory → Reaches top followLast goal links spot.dropLast rest →
      Reaches top followLast goal links spot (['.', '.'] :: rest)
  | down {links : Nat} {spot : Location} {segment : Text} {lab : Label} {rest : List Text} :
      top.view spot = some .directory → IsName segment →
      top.view (spot ++ [segment]) = some lab → (∀ target, lab ≠ .link target) →
      Reaches top followLast goal links (spot ++ [segment]) rest →
      Reaches top followLast goal links spot (segment :: rest)
  | link {links : Nat} {spot : Location} {segment target : Text} {rest : List Text} :
      top.view spot = some .directory → IsName segment →
      top.view (spot ++ [segment]) = some (.link target) → rest ≠ [] ∨ followLast = true →
      Reaches top followLast goal links (if target.head? = some '/' then [] else spot)
        (Text.splitOn '/' target ++ rest) →
      Reaches top followLast goal (links + 1) spot (segment :: rest)
  | last {links : Nat} {spot : Location} {segment target : Text} :
      top.view spot = some .directory → IsName segment →
      top.view (spot ++ [segment]) = some (.link target) → followLast = false →
      goal = spot ++ [segment] → Reaches top followLast goal links spot [segment]

namespace Reaches

variable {top top' : Node} {followLast : Bool} {goal spot : Location} {links : Nat}
  {segments : List Text}

/-! ## Following -/

/-- Stretches that are followed to a node come to it. -/
theorem of_follows {n : Node} (h : Follows top followLast (.node goal n) links spot segments) :
    Reaches top followLast goal links spot segments := by
  induction h with
  | here hn ht =>
    cases ht
    exact .here (Node.view_of_get? hn)
  | idle hspot hidle _ ih => exact .idle hspot hidle ih
  | up hspot _ ih => exact .up hspot ih
  | vacant _ _ _ _ ht => cases ht
  | last hspot hname hlink hkept ht =>
    cases ht
    exact .last hspot hname (Node.view_of_get? hlink) hkept rfl
  | link hspot hname hlink hon _ ih => exact .link hspot hname hlink hon ih
  | down hspot hname hdown hlink _ ih => exact .down hspot hname hdown hlink ih

/-- What comes to a node is followed to it. -/
theorem follow_eq (h : Reaches top followLast goal links spot segments) :
    ∃ n, FileSystem.follow top followLast links spot segments = .ok (.node goal n) := by
  induction h with
  | here hgoal =>
    obtain ⟨n, hn, -⟩ := Option.map_eq_some_iff.1 hgoal
    exact ⟨n, by rw [FileSystem.follow, hn]⟩
  | idle hspot hidle _ ih => rwa [Route.follow_idle hspot hidle]
  | up hspot _ ih => rwa [Route.follow_up hspot]
  | @down _ spot segment lab rest hspot hname hdown hlink _ ih =>
    obtain ⟨m, hm, rfl⟩ := Option.map_eq_some_iff.1 hdown
    rw [Route.follow_cons hspot hname, hm]
    cases m with
    | link target => exact absurd rfl (hlink target)
    | _ => exact ih
  | @link _ spot segment target rest hspot hname hlink hon _ ih =>
    obtain ⟨m, hm, hlabel⟩ := Option.map_eq_some_iff.1 hlink
    rw [Route.follow_cons hspot hname, hm]
    cases m with
    | link target' =>
      cases hlabel
      have hend : ¬ (rest = [] ∧ (!followLast) = true) := by
        rintro ⟨hrest, hfollow⟩
        rcases hon with hon | hon
        · exact hon hrest
        · simp [hon] at hfollow
      simp only [if_neg hend]
      exact ih
    | _ => cases hlabel
  | last hspot hname hlink hfollow hgoal =>
    obtain ⟨m, hm, hlabel⟩ := Option.map_eq_some_iff.1 hlink
    rw [Route.follow_cons hspot hname, hm]
    cases m with
    | link target' => exact ⟨.link target', by simp [hfollow, hgoal]⟩
    | _ => cases hlabel

/-- There is a node at the address from which the stretches lead. -/
theorem view_start (h : Reaches top followLast goal links spot segments) :
    ∃ lab, top.view spot = some lab := by
  cases h <;> exact ⟨_, ‹_›⟩

/-! ## What it depends on -/

/-- The stretches come to the same address as long as everything is kept. -/
theorem mono (h : Reaches top followLast goal links spot segments)
    (hkeep : ∀ l lab, top.view l = some lab → top'.view l = some lab) :
    Reaches top' followLast goal links spot segments := by
  induction h with
  | here hgoal => exact .here (hkeep _ _ hgoal)
  | idle hspot hidle _ ih => exact .idle (hkeep _ _ hspot) hidle ih
  | up hspot _ ih => exact .up (hkeep _ _ hspot) ih
  | down hspot hname hdown hlink _ ih =>
    exact .down (hkeep _ _ hspot) hname (hkeep _ _ hdown) hlink ih
  | link hspot hname hlink hon _ ih =>
    exact .link (hkeep _ _ hspot) hname (hkeep _ _ hlink) hon ih
  | last hspot hname hlink hfollow hgoal =>
    exact .last (hkeep _ _ hspot) hname (hkeep _ _ hlink) hfollow hgoal

/-- It makes no difference that a link at the end is followed if there is none. -/
theorem followed (h : Reaches top false goal links spot segments)
    (hgoal : ∀ target, top.view goal ≠ some (.link target)) :
    Reaches top true goal links spot segments := by
  induction h with
  | here hgoal => exact .here hgoal
  | idle hspot hidle _ ih => exact .idle hspot hidle ih
  | up hspot _ ih => exact .up hspot ih
  | down hspot hname hdown hlink _ ih => exact .down hspot hname hdown hlink ih
  | link hspot hname hlink _ _ ih => exact .link hspot hname hlink (.inr rfl) ih
  | last _ _ hlink _ hlast =>
    subst hlast
    exact absurd hlink (hgoal _)

/-! ## Going on -/

/-- Further stretches go on from the node that has been come to. -/
theorem append (h : Reaches top true goal links spot segments) :
    ∃ links', ∀ rest goal', Reaches top true goal' links' goal rest →
      Reaches top true goal' links spot (segments ++ rest) := by
  induction h with
  | here _ => exact ⟨_, fun _ _ hrest => hrest⟩
  | idle hspot hidle _ ih =>
    obtain ⟨links', ih⟩ := ih
    exact ⟨links', fun rest goal' hrest => .idle hspot hidle (ih rest goal' hrest)⟩
  | up hspot _ ih =>
    obtain ⟨links', ih⟩ := ih
    exact ⟨links', fun rest goal' hrest => .up hspot (ih rest goal' hrest)⟩
  | down hspot hname hdown hlink _ ih =>
    obtain ⟨links', ih⟩ := ih
    exact ⟨links', fun rest goal' hrest => .down hspot hname hdown hlink (ih rest goal' hrest)⟩
  | link hspot hname hlink _ _ ih =>
    obtain ⟨links', ih⟩ := ih
    refine ⟨links', fun rest goal' hrest => .link hspot hname hlink (.inr rfl) ?_⟩
    have hon := ih rest goal' hrest
    rwa [List.append_assoc] at hon
  | last _ _ _ hfollow _ => cases hfollow

/-- Where stretches are put together, the first ones come to a node from which the others go on. -/
theorem split {before rest : List Text} (h : Reaches top true goal links spot (before ++ rest)) :
    ∃ mid links', Reaches top true mid links spot before ∧
      Reaches top true goal links' mid rest := by
  generalize hsegments : before ++ rest = segments at h
  induction h generalizing before with
  | @here links lab hgoal =>
    obtain ⟨rfl, rfl⟩ := List.append_eq_nil_iff.1 hsegments
    exact ⟨_, links, .here hgoal, .here hgoal⟩
  | idle hspot hidle hrest ih =>
    rcases List.append_eq_cons_iff.1 hsegments with ⟨rfl, rfl⟩ | ⟨before, rfl, rfl⟩
    · exact ⟨_, _, .here hspot, .idle hspot hidle hrest⟩
    · obtain ⟨mid, links', hmid, hgoal⟩ := ih rfl
      exact ⟨mid, links', .idle hspot hidle hmid, hgoal⟩
  | up hspot hrest ih =>
    rcases List.append_eq_cons_iff.1 hsegments with ⟨rfl, rfl⟩ | ⟨before, rfl, rfl⟩
    · exact ⟨_, _, .here hspot, .up hspot hrest⟩
    · obtain ⟨mid, links', hmid, hgoal⟩ := ih rfl
      exact ⟨mid, links', .up hspot hmid, hgoal⟩
  | down hspot hname hdown hlink hrest ih =>
    rcases List.append_eq_cons_iff.1 hsegments with ⟨rfl, rfl⟩ | ⟨before, rfl, rfl⟩
    · exact ⟨_, _, .here hspot, .down hspot hname hdown hlink hrest⟩
    · obtain ⟨mid, links', hmid, hgoal⟩ := ih rfl
      exact ⟨mid, links', .down hspot hname hdown hlink hmid, hgoal⟩
  | link hspot hname hlink hon hrest ih =>
    rcases List.append_eq_cons_iff.1 hsegments with ⟨rfl, rfl⟩ | ⟨before, rfl, rfl⟩
    · exact ⟨_, _, .here hspot, .link hspot hname hlink hon hrest⟩
    · obtain ⟨mid, links', hmid, hgoal⟩ := ih (List.append_assoc ..)
      exact ⟨mid, links', .link hspot hname hlink (.inr rfl) hmid, hgoal⟩
  | last _ _ _ hfollow _ => cases hfollow

/-! ## Names at the end -/

/-- Where the last stretch is a name, and a link of this name is not followed, there is a route to
the node. -/
theorem route {name : Text} (h : Reaches top false goal links spot segments)
    (hlast : segments.getLast? = some name) (hidle : ¬ (name = [] ∨ name = ['.']))
    (hup : name ≠ ['.', '.']) :
    ∃ dir, goal = dir ++ [name] ∧ Route top dir name links spot segments := by
  -- The last stretch is the last one of the rest, unless nothing is left.
  have hrest : ∀ {segment : Text} {rest : List Text}, (segment :: rest).getLast? = some name →
      segment = name ∧ rest = [] ∨ rest.getLast? = some name := by
    intro segment rest hlast
    cases rest with
    | nil => exact .inl ⟨Option.some.inj hlast, rfl⟩
    | cons next rest => exact .inr hlast
  induction h with
  | here => cases hlast
  | idle hspot hidle' _ ih =>
    rcases hrest hlast with ⟨rfl, -⟩ | hlast
    · exact absurd hidle' hidle
    · obtain ⟨dir, hgoal, hroute⟩ := ih hlast
      exact ⟨dir, hgoal, .idle hspot hidle' hroute⟩
  | up hspot _ ih =>
    rcases hrest hlast with ⟨rfl, -⟩ | hlast
    · exact absurd rfl hup
    · obtain ⟨dir, hgoal, hroute⟩ := ih hlast
      exact ⟨dir, hgoal, .up hspot hroute⟩
  | @down links spot segment lab rest hspot hname hdown hlink hreaches ih =>
    rcases hrest hlast with ⟨rfl, rfl⟩ | hlast
    · cases hreaches
      exact ⟨spot, rfl, .last hspot hname⟩
    · obtain ⟨dir, hgoal, hroute⟩ := ih hlast
      refine ⟨dir, hgoal, .down hspot hname ?_ hroute⟩
      cases hroute <;> assumption
  | @link links spot segment target rest hspot hname hlink hon _ ih =>
    have hne : rest ≠ [] := hon.resolve_right (by simp)
    rcases hrest hlast with ⟨-, hnil⟩ | hlast
    · exact absurd hnil hne
    · obtain ⟨dir, hgoal, hroute⟩ := ih (by rw [List.getLast?_append, hlast, Option.some_or])
      exact ⟨dir, hgoal, .link hspot hname hlink hne hroute⟩
  | @last links spot segment target hspot hname _ _ hgoal =>
    obtain rfl := Option.some.inj hlast
    exact ⟨spot, hgoal, .last hspot hname⟩

end Reaches

namespace FileSystem

/-- A path comes to the node at an address. -/
structure Finds (fs : FileSystem) (followLast : Bool) (p : Path) (goal : Location) : Prop where
  no_nul : '\x00' ∉ p.text
  ne_nil : p.text ≠ []
  short : Text.byteLength p.text < maxPathBytes
  reaches : Reaches fs.top followLast goal maxLinks (if p.isAbsolute then [] else fs.cwd)
    (Text.splitOn '/' p.text)

variable {fs fs' : FileSystem} {followLast : Bool} {p : Path} {goal : Location} {n : Node}

/-- A node is found exactly if the path comes to it. -/
theorem find_node_iff : fs.find followLast p = .ok (.node goal n) ↔
    fs.Finds followLast p goal ∧ fs.top.get? goal = some n := by
  constructor
  · intro h
    obtain ⟨hnul, hne, hshort, hfollow⟩ := find_eq_ok_iff.1 h
    exact ⟨⟨hnul, hne, hshort, .of_follows (.of_follow hfollow)⟩, find_fits h⟩
  · rintro ⟨⟨hnul, hne, hshort, hreaches⟩, hn⟩
    obtain ⟨m, hm⟩ := hreaches.follow_eq
    have hfind := find_eq_ok_iff.2 ⟨hnul, hne, hshort, hm⟩
    have hfits : fs.top.get? goal = some m := find_fits hfind
    rwa [Option.some.inj (hfits.symm.trans hn)] at hfind

/-- A path that comes to a node does so as long as everything is kept. -/
theorem Finds.mono (h : fs.Finds followLast p goal) (hcwd : fs'.cwd = fs.cwd)
    (hkeep : ∀ l lab, fs.view l = some lab → fs'.view l = some lab) :
    fs'.Finds followLast p goal :=
  ⟨h.no_nul, h.ne_nil, h.short, by rw [hcwd]; exact h.reaches.mono hkeep⟩

/-- It makes no difference that a link at the end is followed if there is none. -/
theorem Finds.followed (h : fs.Finds false p goal) (hn : fs.top.get? goal = some n)
    (hlink : ∀ target, n ≠ .link target) : fs.Finds true p goal := by
  refine ⟨h.no_nul, h.ne_nil, h.short, h.reaches.followed fun target htarget => ?_⟩
  have hlabel := (Node.view_of_get? hn).symm.trans htarget
  cases n with
  | link target => exact hlink target rfl
  | _ => cases hlabel

end FileSystem

end Stencil
