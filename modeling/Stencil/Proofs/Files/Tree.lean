import Stencil.Files.Node

/-!
# Changes to a file tree

What `set` does to a tree, as seen through `view`, which tells of each address whether there is a
node and which one, the entries of directories left out. `view_set` says that a change to the entry
of a directory is seen at its address and below, and nowhere else. It needs the trees to be
`WellFormed`, the entries of each directory having different names, which `set` keeps up.
-/

namespace Stencil

/-- A value that is looked up is that of an entry. -/
theorem mem_of_lookup {α β : Type} [BEq α] [LawfulBEq α] {l : List (α × β)} {a : α} {b : β}
    (h : l.lookup a = some b) : (a, b) ∈ l := by
  obtain ⟨before, after, rfl, -⟩ := List.lookup_eq_some_iff.1 h
  simp

/-- A node without what is below it. -/
inductive Label
  | file (bytes : List UInt8)
  | device
  | directory
  | link (target : Text)
  deriving DecidableEq, Repr

namespace Node

/-- The label of a node. -/
def label : Node → Label
  | file bytes => .file bytes
  | device => .device
  | directory _ => .directory
  | link target => .link target

/-- The label of the node at an address. -/
def view (n : Node) (l : Location) : Option Label :=
  (n.get? l).map label

/-- What is below a directory is below one of its entries. -/
theorem view_cons (n : Node) (name : Text) (l : Location) :
    n.view (name :: l) = (n.child? name).bind (view · l) := by
  rw [view, get?, Option.map_bind]
  rfl

/-- A node whose label is that of a directory is one. -/
theorem exists_directory_of_label {n : Node} (h : n.label = .directory) :
    ∃ es, n = directory es := by
  cases n with
  | directory es => exact ⟨es, rfl⟩
  | _ => cases h

/-! ## Addresses -/

/-- The way down to a node leads on from any node on it. -/
theorem get?_append (l k : Location) (n : Node) : get? (l ++ k) n = (get? l n).bind (get? k) := by
  induction l generalizing n with
  | nil => rfl
  | cons name l ih =>
    rw [List.cons_append, get?, get?, Option.bind_assoc]
    exact congrArg _ (funext ih)

/-- The entry of a directory is the node at its address. -/
theorem get?_append_singleton {n m : Node} {dir : Location} (h : n.get? dir = some m)
    (name : Text) : n.get? (dir ++ [name]) = m.child? name := by
  rw [get?_append, h, Option.bind_some, get?]
  exact Option.bind_fun_some _

/-- Whatever there is a node at lies in a directory. -/
theorem view_of_append_singleton {n : Node} {dir : Location} {name : Text} {lab : Label}
    (h : n.view (dir ++ [name]) = some lab) : n.view dir = some .directory := by
  obtain ⟨m, hm, -⟩ := Option.map_eq_some_iff.1 h
  rw [get?_append, Option.bind_eq_some_iff] at hm
  obtain ⟨d, hd, hchild⟩ := hm
  cases d with
  | directory es => rw [view, hd]; rfl
  | _ => cases hchild

/-- There is nothing below an address unless there is a directory at it. -/
theorem view_append {n : Node} {l k : Location} (h : n.view l ≠ some .directory) (hk : k ≠ []) :
    n.view (l ++ k) = none := by
  rw [view, get?_append]
  cases hl : n.get? l with
  | none => rfl
  | some m =>
    rw [view, hl] at h
    obtain ⟨name, rest, rfl⟩ := List.exists_cons_of_ne_nil hk
    cases m with
    | directory es => exact absurd rfl h
    | _ => rfl

/-! ## Entries -/

/-- An entry is looked up from the first one on. -/
theorem lookup_cons (name other : Text) (m : Node) (es : List (Text × Node)) :
    ((name, m) :: es).lookup other = if other = name then some m else es.lookup other := by
  rw [List.lookup_cons]
  split <;> simp_all

/-- A name without an entry leads nowhere. -/
theorem lookup_eq_none {name : Text} {es : List (Text × Node)} (h : name ∉ es.map Prod.fst) :
    es.lookup name = none := by
  rw [List.lookup_eq_none_iff]
  intro e he
  exact bne_iff_ne.2 fun (heq : name = e.1) => h (heq ▸ List.mem_map_of_mem he)

/-- The names of the entries are those from before and, perhaps, the one of the new entry. -/
theorem mem_names_setEntry {name other : Text} {child : Option Node} {es : List (Text × Node)}
    (h : other ∈ (setEntry name child es).map Prod.fst) :
    other = name ∨ other ∈ es.map Prod.fst := by
  fun_induction setEntry name child es with
  | case1 => cases child <;> simp_all
  | case2 => cases child <;> simp_all
  | case3 e m rest hne ih =>
    rw [List.map_cons] at h ⊢
    rcases List.mem_cons.1 h with rfl | h
    · exact .inr List.mem_cons_self
    · exact (ih h).imp_right (List.mem_cons_of_mem _)

/-- The names of the entries stay different. -/
theorem nodup_setEntry {name : Text} {child : Option Node} {es : List (Text × Node)}
    (h : (es.map Prod.fst).Nodup) : ((setEntry name child es).map Prod.fst).Nodup := by
  fun_induction setEntry name child es with
  | case1 => cases child <;> simp
  | case2 m rest =>
    cases child with
    | none => exact (List.nodup_cons.1 h).2
    | some c => exact h
  | case3 other m rest hne ih =>
    obtain ⟨hnew, hrest⟩ := List.nodup_cons.1 h
    refine List.nodup_cons.2 ⟨fun hmem => ?_, ih hrest⟩
    exact (mem_names_setEntry hmem).elim hne hnew

/-- What is found under a name once an entry has been given a node or removed. -/
theorem lookup_setEntry {name : Text} {child : Option Node} {es : List (Text × Node)}
    (h : (es.map Prod.fst).Nodup) (other : Text) :
    (setEntry name child es).lookup other = if other = name then child else es.lookup other := by
  fun_induction setEntry name child es with
  | case1 =>
    cases child with
    | none => exact (ite_self _).symm
    | some c => exact lookup_cons name other c []
  | case2 m rest =>
    -- If the entry is removed, no other one of this name comes to light.
    have hrest := lookup_eq_none (List.nodup_cons.1 h).1
    rw [lookup_cons]
    by_cases hother : other = name
    · subst hother
      cases child with
      | none => simpa using hrest
      | some c => simp
    · cases child <;> simp [lookup_cons, hother]
  | case3 e m rest hne ih =>
    rw [lookup_cons, lookup_cons, ih (List.nodup_cons.1 h).2]
    by_cases hother : other = e
    · rw [if_pos hother, if_pos hother, if_neg (hother ▸ hne)]
    · rw [if_neg hother, if_neg hother]

/-! ## Well-formed trees -/

/-- The entries of each directory have different names. -/
def WellFormed (n : Node) : Prop :=
  ∀ l es, n.get? l = some (directory es) → (es.map Prod.fst).Nodup

/-- What is below a directory is well-formed too. -/
theorem WellFormed.child {n m : Node} (h : n.WellFormed) {name : Text}
    (hm : n.child? name = some m) : m.WellFormed := by
  intro l es hl
  refine h (name :: l) es ?_
  rw [get?, hm]
  exact hl

/-- A directory is well-formed if its entries have different names and are well-formed. -/
theorem wellFormed_directory {es : List (Text × Node)} (hes : (es.map Prod.fst).Nodup)
    (h : ∀ name m, es.lookup name = some m → m.WellFormed) : (directory es).WellFormed := by
  intro l es' hl
  cases l with
  | nil =>
    cases hl
    exact hes
  | cons name l =>
    obtain ⟨m, hm, hl⟩ := Option.bind_eq_some_iff.1 hl
    exact h name m hm l es' hl

/-- A directory is well-formed if its entries have different names and hold well-formed nodes. -/
theorem wellFormed_of_entries {es : List (Text × Node)} (hes : (es.map Prod.fst).Nodup)
    (h : ∀ e ∈ es, e.2.WellFormed) : (directory es).WellFormed := by
  exact wellFormed_directory hes fun name m hm => h (name, m) (mem_of_lookup hm)

/-- Giving an entry a well-formed node leaves a directory well-formed. -/
theorem WellFormed.setEntry {es : List (Text × Node)} (h : (directory es).WellFormed) (name : Text)
    {child : Option Node} (hchild : ∀ c ∈ child, c.WellFormed) :
    (directory (setEntry name child es)).WellFormed := by
  have hes := h [] es rfl
  refine wellFormed_directory (nodup_setEntry hes) fun other m hm => ?_
  rw [lookup_setEntry hes] at hm
  split at hm
  · exact hchild m hm
  · exact h.child hm

/-- A tree stays well-formed when an address is given a well-formed node. -/
theorem WellFormed.set {n : Node} (h : n.WellFormed) {child : Option Node}
    (hchild : ∀ c ∈ child, c.WellFormed) (l : Location) : (n.set child l).WellFormed := by
  fun_induction Node.set child l n with
  | case1 n =>
    cases child with
    | none => exact h
    | some c => exact hchild c rfl
  | case2 name es => exact h.setEntry name hchild
  | case3 => exact h
  | case4 name rest hrest es below hbelow ih =>
    exact h.setEntry name fun c hc => Option.some.inj hc ▸ ih (h.child hbelow)
  | case5 => exact h
  | case6 => exact h

/-! ## Changes -/

/-- A change below an entry of a directory is a change of this entry. -/
theorem set_cons {child : Option Node} {name : Text} {rest : Location} (hrest : rest ≠ [])
    {es : List (Text × Node)} {m : Node} (hm : es.lookup name = some m) :
    (directory es).set child (name :: rest)
      = directory (Node.setEntry name (some (m.set child rest)) es) := by
  obtain ⟨next, rest, rfl⟩ := List.exists_cons_of_ne_nil hrest
  rw [set]
  · simp only [hm]
  · exact List.cons_ne_nil _ _

/-- A change to the entry of a directory is seen at its address and below, and nowhere else. -/
theorem view_set {n : Node} (h : n.WellFormed) {dir : Location}
    (hdir : n.view dir = some .directory) (name : Text) (child : Option Node) (l : Location) :
    (n.set child (dir ++ [name])).view l
      = if dir ++ [name] <+: l then (child.bind (get? (l.drop (dir.length + 1)))).map label
        else n.view l := by
  induction dir generalizing n l with
  | nil =>
    obtain ⟨es, rfl⟩ := exists_directory_of_label (Option.some.inj hdir)
    have hset : (directory es).set child ([] ++ [name]) = directory (Node.setEntry name child es) :=
      rfl
    rw [hset]
    cases l with
    | nil => simp [view, get?, label]
    | cons other rest =>
      have hlookup : (directory (Node.setEntry name child es)).child? other
          = if other = name then child else (directory es).child? other :=
        lookup_setEntry (h [] es rfl) other
      rw [view_cons, view_cons, hlookup]
      by_cases hother : other = name
      · subst hother
        rw [if_pos rfl, if_pos (by simp), Option.map_bind]
        rfl
      · simp [hother, Ne.symm hother]
  | cons d dir ih =>
    -- The change is one of the entry `d`, which leaves the other entries alone.
    rw [view_cons, Option.bind_eq_some_iff] at hdir
    obtain ⟨m, hm, hdir⟩ := hdir
    cases n with
    | directory es =>
      have hset : (directory es).set child (d :: dir ++ [name])
          = directory (Node.setEntry d (some (m.set child (dir ++ [name]))) es) :=
        set_cons (by simp) hm
      rw [hset]
      cases l with
      | nil => simp [view, get?, label]
      | cons other rest =>
        have hlookup : (directory (Node.setEntry d (some (m.set child (dir ++ [name]))) es)).child?
            other = if other = d then some (m.set child (dir ++ [name]))
              else (directory es).child? other :=
          lookup_setEntry (h [] es rfl) other
        rw [view_cons, view_cons, hlookup]
        by_cases hother : other = d
        · subst hother
          rw [if_pos rfl, hm, Option.bind_some, ih (h.child hm) hdir, Option.bind_some]
          simp
        · simp [hother, Ne.symm hother]
    | _ => cases hm

/-- A node with nothing below it. -/
def IsLeaf (n : Node) : Prop :=
  n.entries = []

/-- Nothing is below a leaf. -/
theorem IsLeaf.get? {n : Node} (h : n.IsLeaf) {l : Location} (hl : l ≠ []) : n.get? l = none := by
  obtain ⟨name, rest, rfl⟩ := List.exists_cons_of_ne_nil hl
  rw [Node.get?, child?, h]
  rfl

/-- A leaf is well-formed. -/
theorem IsLeaf.wellFormed {n : Node} (h : n.IsLeaf) : n.WellFormed := by
  intro l es hl
  by_cases hnil : l = []
  · subst hnil
    obtain rfl : n = directory es := Option.some.inj hl
    obtain rfl : es = [] := h
    exact List.nodup_nil
  · rw [h.get? hnil] at hl
    cases hl

/-- Where there is no directory, an entry that is made, exchanged or removed is seen at its address
alone. -/
theorem view_set_leaf {n : Node} (h : n.WellFormed) {dir : Location} {name : Text}
    (hdir : n.view dir = some .directory) (hold : n.view (dir ++ [name]) ≠ some .directory)
    {child : Option Node} (hchild : ∀ c ∈ child, c.IsLeaf) (l : Location) :
    (n.set child (dir ++ [name])).view l
      = if l = dir ++ [name] then child.map label else n.view l := by
  rw [view_set h hdir]
  by_cases hprefix : dir ++ [name] <+: l
  · -- At the address itself there is the new node, and below it there was nothing.
    obtain ⟨rest, rfl⟩ := hprefix
    have hdrop : (dir ++ [name] ++ rest).drop (dir.length + 1) = rest := by simp
    rw [if_pos (List.prefix_append _ _), hdrop]
    by_cases hrest : rest = []
    · subst hrest
      cases child <;> simp [Node.get?]
    · rw [if_neg (by simpa using hrest), view_append hold hrest]
      cases child with
      | none => rfl
      | some c => simp [(hchild c rfl).get? hrest]
  · have hne : l ≠ dir ++ [name] := fun heq => hprefix (heq ▸ List.prefix_rfl)
    rw [if_neg hprefix, if_neg hne]

end Node

end Stencil
