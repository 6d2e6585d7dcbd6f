import Mathlib.Data.List.Basic
import Stencil.Proofs.Files.Names
import Stencil.Proofs.Files.Reach

/-!
# Files below a directory

A file below a directory is found under the path of the directory and the names on the way down
(`stat_below`), if these are names that entries can have: the path of the directory comes to the
directory, and the names go on from there.
-/

namespace Stencil

/-- A text that can be the name of an entry. -/
structure IsEntryName (s : Text) : Prop where
  isName : IsName s
  no_nul : '\x00' ∉ s
  no_slash : '/' ∉ s

instance (s : Text) : Decidable (IsEntryName s) :=
  decidable_of_iff
    (s ≠ [] ∧ s ≠ ['.'] ∧ s ≠ ['.', '.'] ∧ Text.byteLength s ≤ FileSystem.maxNameBytes ∧
      '\x00' ∉ s ∧ '/' ∉ s)
    ⟨fun ⟨hnil, hhere, hup, hlength, hnul, hslash⟩ => ⟨⟨hnil, hhere, hup, hlength⟩, hnul, hslash⟩,
      fun ⟨⟨hnil, hhere, hup, hlength⟩, hnul, hslash⟩ => ⟨hnil, hhere, hup, hlength, hnul, hslash⟩⟩

namespace Node

/-- All entries have names that entries can have. -/
def Named (n : Node) : Prop :=
  ∀ l es, n.get? l = some (directory es) → ∀ e ∈ es, IsEntryName e.1

/-- There are no entries in a leaf. -/
theorem IsLeaf.named {n : Node} (h : n.IsLeaf) : n.Named := by
  intro l es hl e he
  by_cases hnil : l = []
  · subst hnil
    obtain rfl : n = directory es := Option.some.inj hl
    obtain rfl : es = [] := h
    cases he
  · rw [h.get? hnil] at hl
    cases hl

/-- The names in a directory are those of its entries and those in what they hold. -/
theorem named_of_entries {es : List (Text × Node)}
    (h : ∀ e ∈ es, IsEntryName e.1 ∧ e.2.Named) : (directory es).Named := by
  intro l es' hl
  cases l with
  | nil =>
    cases hl
    exact fun e he => (h e he).1
  | cons name l =>
    obtain ⟨m, hm, hbelow⟩ := Option.bind_eq_some_iff.1 hl
    have hlookup : es.lookup name = some m := hm
    exact (h (name, m) (mem_of_lookup hlookup)).2 l es' hbelow

/-- The names on the way down to a node are names of entries. -/
theorem Named.of_get? {top : Node} (h : top.Named) {dir names : Location} {n : Node}
    (hn : top.get? (dir ++ names) = some n) : ∀ name ∈ names, IsEntryName name := by
  induction names generalizing dir with
  | nil => simp
  | cons first names ih =>
    have hfirst : IsEntryName first := by
      rw [get?_append, Option.bind_eq_some_iff] at hn
      obtain ⟨m, hm, hn⟩ := hn
      obtain ⟨child, hchild, -⟩ := Option.bind_eq_some_iff.1 hn
      cases m with
      | directory es =>
        have hlookup : es.lookup first = some child := hchild
        exact h dir es hm (first, child) (mem_of_lookup hlookup)
      | _ => cases hchild
    have hrest : top.get? (dir ++ [first] ++ names) = some n := by
      rwa [List.append_assoc, List.singleton_append]
    intro name hname
    rcases List.mem_cons.1 hname with rfl | hname
    · exact hfirst
    · exact ih hrest name hname

end Node

/-! ## Paths along names -/

namespace Path

/-- The path along names. -/
def ofNames (names : Location) : Path :=
  ⟨Text.join ['/'] names⟩

variable {names : Location}

/-- Names of entries are the stretches between the slashes of the path along them. -/
theorem splitOn_ofNames (hne : names ≠ []) (hnames : ∀ name ∈ names, IsEntryName name) :
    Text.splitOn '/' (ofNames names).text = names :=
  Text.splitOn_join hne fun name hname => (hnames name hname).no_slash

/-- There is no NUL character in a path along names of entries. -/
theorem nul_not_mem_ofNames (hnames : ∀ name ∈ names, IsEntryName name) :
    '\x00' ∉ (ofNames names).text := by
  induction names with
  | nil => exact List.not_mem_nil
  | cons name rest ih =>
    have hname := (hnames name List.mem_cons_self).no_nul
    have hrest := ih fun other hother => hnames other (List.mem_cons_of_mem _ hother)
    cases rest with
    | nil => simpa [ofNames, Text.join] using hname
    | cons next rest =>
      rw [ofNames, Text.join_cons_cons, List.append_assoc, List.mem_append, List.mem_append]
      rintro (hnul | hnul | hnul)
      · exact hname hnul
      · exact absurd hnul (by decide)
      · exact hrest hnul

/-- A path along names of entries begins with a character of the first one. -/
theorem ofNames_eq_cons {name : Text} (hname : IsEntryName name) (rest : Location) :
    ∃ c t, (ofNames (name :: rest)).text = c :: t ∧ c ≠ '/' := by
  obtain ⟨c, t, rfl⟩ := List.exists_cons_of_ne_nil hname.isName.ne_nil
  have hc : c ≠ '/' := fun heq => hname.no_slash (heq ▸ List.mem_cons_self)
  cases rest with
  | nil => exact ⟨c, t, by simp [ofNames, Text.join], hc⟩
  | cons next rest => exact ⟨c, _, by rw [ofNames, Text.join_cons_cons]; rfl, hc⟩

/-- A path along names of entries is relative. -/
theorem ofNames_relative (hnames : ∀ name ∈ names, IsEntryName name) :
    ¬ (ofNames names).isAbsolute := by
  cases names with
  | nil => exact Bool.false_ne_true
  | cons name rest =>
    obtain ⟨c, t, htext, hc⟩ := ofNames_eq_cons (hnames name List.mem_cons_self) rest
    rw [isAbsolute, htext]
    simpa using hc

/-- A path goes on behind a name with a slash. -/
theorem join_join {root q : Path} {name : Text} (hname : IsEntryName name) (hq : ¬ q.isAbsolute) :
    (root.join ⟨name⟩).join q = root.join ⟨name ++ '/' :: q.text⟩ := by
  obtain ⟨c, t, rfl⟩ := List.exists_cons_of_ne_nil hname.isName.ne_nil
  have hc : c ≠ '/' := fun heq => hname.no_slash (heq ▸ List.mem_cons_self)
  have hrelative : ∀ rest, ¬ isAbsolute ⟨c :: rest⟩ := fun rest => by simpa [isAbsolute] using hc
  -- The name is what the path before `q` ends in, and it does not end in a slash.
  have hjoin : ∀ p : Path, p.text.getLast? = (c :: t).getLast? →
      p.join q = ⟨p.text ++ '/' :: q.text⟩ := by
    intro p hp
    obtain ⟨d, hd⟩ : ∃ d, (c :: t).getLast? = some d := ⟨_, List.getLast?_eq_some_getLast (by simp)⟩
    have hslash : d ≠ '/' := fun heq => hname.no_slash (heq ▸ List.mem_of_getLast? hd)
    rw [join, if_neg hq, hp, hd]
    split
    · cases ‹some d = none›
    · exact absurd (Option.some.inj ‹_›) hslash
    · rfl
  rw [hjoin (root.join ⟨c :: t⟩)]
  · rw [List.cons_append, join, join, if_neg (hrelative t), if_neg (hrelative _)]
    split <;> simp
  · rcases text_join (p := root) (hrelative t) with htext | ⟨before, htext⟩
    · rw [htext]
    · rw [htext, List.getLast?_append, List.getLast?_cons_cons,
        List.getLast?_eq_some_getLast (List.cons_ne_nil c t), Option.some_or]

/-- The last name is the file name of a path along names. -/
theorem fileName?_join_ofNames (root : Path) (hnames : ∀ name ∈ names, IsEntryName name)
    {name : Text} (hlast : names.getLast? = some name) :
    (root.join (ofNames names)).fileName? = some name := by
  have hne : names ≠ [] := by
    rintro rfl
    cases hlast
  have hsegment : ∀ name ∈ names, segment? name = some (.name name) := by
    intro name hname
    have hisName := (hnames name hname).isName
    rw [segment?, if_neg (by simp [hisName.ne_nil, hisName.ne_here]), if_neg hisName.ne_up]
  have hsegments : segments (ofNames names).text = names.map .name := by
    rw [segments, splitOn_ofNames hne hnames]
    exact List.filterMap_eq_map_iff_forall_eq_some.2 hsegment
  have hsegments_ne : segments (ofNames names).text ≠ [] := by simpa [hsegments] using hne
  rw [fileName?, getLast?_components hsegments_ne (text_join (ofNames_relative hnames)),
    hsegments, List.getLast?_map, hlast]
  rfl

end Path

namespace FileSystem

variable {fs : FileSystem}

/-! ## Going down -/

/-- Names of entries lead down to a file. -/
theorem reaches_down {top : Node} {dir names : Location} {bytes : List UInt8}
    (hfile : top.view (dir ++ names) = some (.file bytes))
    (hnames : ∀ name ∈ names, IsEntryName name) (links : Nat) :
    Reaches top true (dir ++ names) links dir names := by
  induction names generalizing dir with
  | nil =>
    rw [List.append_nil] at hfile ⊢
    exact .here hfile
  | cons name names ih =>
    have hsplit : dir ++ name :: names = dir ++ [name] ++ names := by simp
    rw [hsplit] at hfile ⊢
    have hrest := ih hfile fun other hother => hnames other (List.mem_cons_of_mem _ hother)
    -- What the file is below is a directory, and what is there is the file or above it.
    obtain ⟨lab, hlab⟩ := hrest.view_start
    refine .down (Node.view_of_append_singleton hlab)
      (hnames name List.mem_cons_self).isName hlab (fun target hlink => ?_) hrest
    subst hlink
    by_cases hnil : names = []
    · rw [hnil, List.append_nil] at hfile
      cases hlab.symm.trans hfile
    · rw [Node.view_append (by simp [hlab]) hnil] at hfile
      cases hfile

/-- A slash at the end of a path makes no difference to what it comes to. -/
theorem reaches_of_slash {top : Node} {goal spot : Location} {links : Nat} {segments : List Text}
    (h : Reaches top true goal links spot (segments ++ [[]])) :
    Reaches top true goal links spot segments := by
  obtain ⟨mid, links', hmid, hend⟩ := h.split
  cases hend with
  | idle _ _ hhere =>
    cases hhere
    exact hmid
  | down _ hname => exact absurd rfl hname.ne_nil
  | link _ hname => exact absurd rfl hname.ne_nil
  | last _ hname => exact absurd rfl hname.ne_nil

/-- A path that goes on behind another one has a slash before what it goes on with, and what is
before the slash comes to the same node. -/
theorem Finds.exists_before {root q : Path} {dir : Location} (hroot : fs.Finds true root dir)
    (hq : ¬ q.isAbsolute) :
    ∃ before, (root.join q).text = before ++ '/' :: q.text ∧
      (root.join q).isAbsolute = root.isAbsolute ∧ '\x00' ∉ before ∧
      Reaches fs.top true dir maxLinks (if root.isAbsolute then [] else fs.cwd)
        (Text.splitOn '/' before) := by
  obtain ⟨before, htext, hbefore⟩ := Path.exists_text_join hroot.ne_nil hq
  refine ⟨before, htext, ?_, ?_, ?_⟩
  · rw [Path.isAbsolute, Path.isAbsolute, htext]
    rcases hbefore with hbefore | ⟨hne, hbefore⟩
    · rw [hbefore]
      cases before <;> rfl
    · rw [hbefore]
      cases before with
      | nil => exact absurd rfl hne
      | cons c before => rfl
  · intro hmem
    refine hroot.no_nul ?_
    rcases hbefore with hbefore | ⟨-, hbefore⟩ <;> simp [hbefore, hmem]
  · have hall := hroot.reaches
    rcases hbefore with hbefore | ⟨-, hbefore⟩
    · rw [hbefore, Text.splitOn_append] at hall
      exact reaches_of_slash hall
    · rwa [hbefore] at hall

/-- A path that goes on behind another one comes to what it comes to from there. -/
theorem Finds.join {root q : Path} {dir goal : Location} (hroot : fs.Finds true root dir)
    (hq : ¬ q.isAbsolute) (hnul : '\x00' ∉ q.text)
    (hshort : Text.byteLength (root.join q).text < maxPathBytes)
    (hon : ∀ links, Reaches fs.top true goal links dir (Text.splitOn '/' q.text)) :
    fs.Finds true (root.join q) goal := by
  obtain ⟨before, htext, habsolute, hnul_before, hreaches⟩ := hroot.exists_before hq
  obtain ⟨links', hgoal⟩ := hreaches.append
  refine ⟨by simp [htext, hnul_before, hnul], by simp [htext], hshort, ?_⟩
  rw [habsolute, htext, Text.splitOn_append]
  exact hgoal _ _ (hon links')

/-- A file below the directory that a path comes to is found under the path and the names on the
way down. -/
theorem stat_below {root : Path} {dir names : Location} {bytes : List UInt8}
    (hroot : fs.Finds true root dir) (hfile : fs.top.get? (dir ++ names) = some (.file bytes))
    (hne : names ≠ []) (hnames : ∀ name ∈ names, IsEntryName name)
    (hshort : Text.byteLength (root.join (.ofNames names)).text < maxPathBytes) :
    fs.stat (root.join (.ofNames names)) = .ok (.file bytes) := by
  have hfinds := hroot.join (Path.ofNames_relative hnames) (Path.nul_not_mem_ofNames hnames) hshort
    fun links => by
      rw [Path.splitOn_ofNames hne hnames]
      exact reaches_down (Node.view_of_get? hfile) hnames links
  rw [stat, find_node_iff.2 ⟨hfinds, hfile⟩]

end FileSystem

end Stencil
