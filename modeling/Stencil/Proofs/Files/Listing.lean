import Stencil.Proofs.Files.Tree
import Stencil.Proofs.Text.Order

/-!
# The files of a tree

`Node.files` lists the addresses of the regular files that are in no directory with a name that is
passed over, and no others (`mem_files_iff`). It does so in the order of the names on the way
(`pairwise_files`): what is in a directory comes where the name of the directory has its place, so
that the addresses are compared name by name and not as paths are compared as texts. No address is
listed twice, since no address is before itself (`Before.ne`).
-/

namespace Stencil

/-- An address is before another one if, where they part, its name has the smaller UTF-8 form or it
ends there. -/
def Before : Location → Location → Prop :=
  List.Lex fun s t => Utf8.encode s < Utf8.encode t

/-- No address is before itself. -/
theorem Before.ne {l k : Location} (h : Before l k) : l ≠ k := by
  rintro rfl
  induction l with
  | nil => cases h
  | cons name l ih =>
    cases h with
    | cons h => exact ih h
    | rel h => exact List.lt_irrefl _ h

namespace Node

variable {skip : Text → Bool}

/-! ## Entries -/

/-- An entry is found under its name. -/
theorem lookup_of_mem {es : List (Text × Node)} (h : (es.map Prod.fst).Nodup) {name : Text}
    {m : Node} (hm : (name, m) ∈ es) : es.lookup name = some m := by
  induction es with
  | nil => cases hm
  | cons e es ih =>
    obtain ⟨hnew, hes⟩ := List.nodup_cons.1 h
    rw [lookup_cons]
    rcases List.mem_cons.1 hm with rfl | hm
    · rw [if_pos rfl]
    · rw [if_neg, ih hes hm]
      rintro rfl
      exact hnew (List.mem_map.2 ⟨_, hm, rfl⟩)

/-- What is below a well-formed node is well-formed. -/
theorem WellFormed.get? {n m : Node} (h : n.WellFormed) {l : Location} (hm : n.get? l = some m) :
    m.WellFormed := by
  intro k es hk
  refine h (l ++ k) es ?_
  rw [get?_append, hm]
  exact hk

/-- The nodes of the entries of a well-formed directory are well-formed. -/
theorem WellFormed.of_mem {es : List (Text × Node)} (h : (directory es).WellFormed)
    {e : Text × Node} (he : e ∈ es) : e.2.WellFormed :=
  h.child (lookup_of_mem (h [] es rfl) he)

/-- There is something below a node only if it is a directory. -/
theorem isDirectory_of_get? {n m : Node} {name : Text} {l : Location}
    (h : n.get? (name :: l) = some m) : n.isDirectory := by
  cases n with
  | directory es => rfl
  | _ => cases h

/-! ## Which files are listed -/

/-- The files of entries are those of the nodes, directories that are passed over left out. -/
theorem mem_filesOfEntries_iff {es : List (Text × Node)} {name : Text} {below : List Location} :
    (name, below) ∈ filesOfEntries skip es ↔
      ∃ m, (name, m) ∈ es ∧ ¬ (m.isDirectory ∧ skip name) ∧ below = m.files skip := by
  induction es with
  | nil => simp [filesOfEntries]
  | cons e es ih =>
    rw [filesOfEntries]
    split
    · rename_i hskip
      rw [Bool.and_eq_true] at hskip
      rw [ih]
      constructor
      · rintro ⟨m, hm, hkept⟩
        exact ⟨m, List.mem_cons_of_mem _ hm, hkept⟩
      · rintro ⟨m, hm, hkept⟩
        rcases List.mem_cons.1 hm with rfl | hm
        · exact absurd hskip hkept.1
        · exact ⟨m, hm, hkept⟩
    · rename_i hskip
      rw [Bool.and_eq_true] at hskip
      rw [List.mem_cons, ih]
      constructor
      · rintro (heq | ⟨m, hm, hkept⟩)
        · cases heq
          exact ⟨e.2, List.mem_cons_self, hskip, rfl⟩
        · exact ⟨m, List.mem_cons_of_mem _ hm, hkept⟩
      · rintro ⟨m, hm, hkept⟩
        rcases List.mem_cons.1 hm with rfl | hm
        · exact .inl (by rw [hkept.2])
        · exact .inr ⟨m, hm, hkept⟩

/-- The files below a directory are those of its entries. -/
theorem cons_mem_files_iff {es : List (Text × Node)} {name : Text} {names : Location} :
    name :: names ∈ (directory es).files skip ↔
      ∃ m, (name, m) ∈ es ∧ ¬ (m.isDirectory ∧ skip name) ∧ names ∈ m.files skip := by
  rw [files, List.mem_flatMap]
  constructor
  · rintro ⟨⟨other, below⟩, hentry, hnames⟩
    obtain ⟨l, hl, heq⟩ := List.mem_map.1 hnames
    cases heq
    obtain ⟨m, hm, hkept, rfl⟩ := mem_filesOfEntries_iff.1 (List.mem_mergeSort.1 hentry)
    exact ⟨m, hm, hkept, hl⟩
  · rintro ⟨m, hm, hkept, hnames⟩
    exact ⟨(name, m.files skip),
      List.mem_mergeSort.2 (mem_filesOfEntries_iff.2 ⟨m, hm, hkept, rfl⟩),
      List.mem_map.2 ⟨names, hnames, rfl⟩⟩

/-- An entry that leads on to a file further below is a directory, whose name is then one of those
before the name of the file. -/
theorem kept_iff {m : Node} {name : Text} {names : Location} {bytes : List UInt8}
    (h : m.get? names = some (.file bytes)) :
    (¬ (m.isDirectory ∧ skip name) ∧ ∀ other ∈ names.dropLast, ¬ skip other) ↔
      ∀ other ∈ (name :: names).dropLast, ¬ skip other := by
  cases names with
  | nil =>
    cases h
    simp [isDirectory]
  | cons next names =>
    have hdirectory := isDirectory_of_get? h
    simp [hdirectory]

/-- The files that are listed are those that are in no directory with a name that is passed over. -/
theorem mem_files_iff {n : Node} (h : n.WellFormed) {names : Location} :
    names ∈ n.files skip ↔
      (∃ bytes, n.get? names = some (.file bytes)) ∧ ∀ name ∈ names.dropLast, ¬ skip name := by
  -- The induction is on the names, which `get?` goes along, and not on the tree.
  induction names generalizing n with
  | nil => cases n <;> simp [files, get?]
  | cons name names ih =>
    cases n with
    | directory es =>
      rw [cons_mem_files_iff]
      constructor
      · rintro ⟨m, hm, hkept, hnames⟩
        obtain ⟨⟨bytes, hfile⟩, hrest⟩ := (ih (h.of_mem hm)).1 hnames
        refine ⟨⟨bytes, ?_⟩, (kept_iff hfile).1 ⟨hkept, hrest⟩⟩
        rwa [get?, child?, entries, lookup_of_mem (h [] es rfl) hm]
      · rintro ⟨⟨bytes, hbytes⟩, hnames⟩
        obtain ⟨m, hm, hfile⟩ := Option.bind_eq_some_iff.1 hbytes
        obtain ⟨hkept, hrest⟩ := (kept_iff hfile).2 hnames
        exact ⟨m, mem_of_lookup hm, hkept, (ih (h.child hm)).2 ⟨⟨bytes, hfile⟩, hrest⟩⟩
    | _ => simp [files, get?, child?, entries]

/-- At the addresses that are listed as those of files there are files. -/
theorem get?_of_mem_files {names : Location} {n : Node} (h : n.WellFormed)
    (hnames : names ∈ n.files skip) : ∃ bytes, n.get? names = some (.file bytes) :=
  ((mem_files_iff h).1 hnames).1

/-! ## The order of the files -/

/-- The names of the entries that are not passed over are among the names of all entries. -/
theorem names_filesOfEntries (skip : Text → Bool) (es : List (Text × Node)) :
    ((filesOfEntries skip es).map Prod.fst).Sublist (es.map Prod.fst) := by
  induction es with
  | nil => exact .slnil
  | cons e es ih =>
    rw [filesOfEntries]
    split
    · exact ih.cons _
    · exact ih.cons_cons _

/-- Once entries with different names are sorted, the forms of the names increase. -/
theorem pairwise_mergeSort {found : List (Text × List Location)}
    (hnames : (found.map Prod.fst).Nodup) :
    (found.mergeSort fun a b => Text.le a.1 b.1).Pairwise
      fun a b => Utf8.encode a.1 < Utf8.encode b.1 := by
  have hsorted : (found.mergeSort fun a b => Text.le a.1 b.1).Pairwise
      fun a b => Text.le a.1 b.1 := by
    apply List.pairwise_mergeSort
    · exact fun _ _ _ => Text.le_trans
    · exact fun _ _ => Text.le_total _ _
  have hperm := (List.mergeSort_perm found fun a b => Text.le a.1 b.1).map Prod.fst
  have hdifferent := List.pairwise_map.1 (hperm.nodup_iff.2 hnames)
  exact hsorted.imp₂ (fun _ _ hle hne => Text.encode_lt_of_le hle hne) hdifferent

mutual

/-- The files of a tree are listed in the order of the names on the way. -/
theorem pairwise_files (skip : Text → Bool) :
    ∀ n : Node, n.WellFormed → (n.files skip).Pairwise Before
  | .file _, _ => by
    rw [files]
    exact List.pairwise_singleton _ _
  | .device, _ => by
    rw [files]
    exact .nil
  | .link _, _ => by
    rw [files]
    exact .nil
  | .directory es, h => by
    have hentries := pairwise_filesOfEntries skip es fun e he => h.of_mem he
    have hnames := (h [] es rfl).sublist (names_filesOfEntries skip es)
    rw [files, List.pairwise_flatMap]
    generalize filesOfEntries skip es = found at hentries hnames
    constructor
    · intro e he
      exact List.pairwise_map.2 ((hentries e (List.mem_mergeSort.1 he)).imp .cons)
    · -- Where the names of two entries part, the addresses part.
      refine (pairwise_mergeSort hnames).imp ?_
      intro a b hab l hl k hk
      obtain ⟨l', -, rfl⟩ := List.mem_map.1 hl
      obtain ⟨k', -, rfl⟩ := List.mem_map.1 hk
      exact .rel hab

/-- The files of each entry are listed in the order of the names on the way. -/
theorem pairwise_filesOfEntries (skip : Text → Bool) :
    ∀ es : List (Text × Node), (∀ e ∈ es, e.2.WellFormed) →
      ∀ e ∈ filesOfEntries skip es, e.2.Pairwise Before
  | [], _ => by
    rw [filesOfEntries]
    exact fun e he => absurd he List.not_mem_nil
  | (name, node) :: rest, h => by
    have hnode := pairwise_files skip node (h _ List.mem_cons_self)
    have hrest := pairwise_filesOfEntries skip rest fun e he => h e (List.mem_cons_of_mem _ he)
    rw [filesOfEntries]
    split
    · exact hrest
    · intro e he
      rcases List.mem_cons.1 he with rfl | he
      · exact hnode
      · exact hrest e he

end

end Node

end Stencil
