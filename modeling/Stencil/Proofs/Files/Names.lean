import Stencil.Proofs.Document.Naming
import Stencil.Proofs.Text.Split

/-!
# Names in paths

The components of a path come from the stretches between its slashes, apart from one that may stand
at the start. So the end of a path decides on its file name: a path along another one has the
extension of that one (`extension?_join`).
-/

namespace Stencil.Path

/-- A path that goes on relatively is what is before it without a slash at the end, and what it goes
on with behind a slash. -/
theorem exists_text_join {p q : Path} (hp : p.text ≠ []) (hq : ¬ q.isAbsolute) :
    ∃ before, (p.join q).text = before ++ '/' :: q.text ∧
      (p.text = before ++ ['/'] ∨ before ≠ [] ∧ p.text = before) := by
  unfold join
  rw [if_neg hq]
  split
  · exact absurd (List.getLast?_eq_none_iff.1 ‹_›) hp
  · obtain ⟨before, hbefore⟩ := List.getLast?_eq_some_iff.1 ‹p.text.getLast? = some '/'›
    exact ⟨before, by simp [hbefore], .inl hbefore⟩
  · exact ⟨p.text, rfl, .inr ⟨hp, rfl⟩⟩

/-! ## Components -/

/-- The components that the stretches between slashes stand for. -/
def segments (s : Text) : List Component :=
  (Text.splitOn '/' s).filterMap segment?

/-- A slash parts the components before it from those behind it. -/
theorem segments_append (s t : Text) : segments (s ++ '/' :: t) = segments s ++ segments t := by
  rw [segments, Text.splitOn_append, List.filterMap_append]
  rfl

/-- A slash at the start adds no component. -/
theorem segments_slash (t : Text) : segments ('/' :: t) = segments t :=
  segments_append [] t

/-- The components of a path are those between its slashes, behind a root or a dot at the start. -/
theorem exists_components_eq (s : Text) : ∃ before, components ⟨s⟩ = before ++ segments s := by
  unfold components start
  simp only
  split
  · rename_i rest
    exact ⟨[.root], by rw [segments_slash]; rfl⟩
  · exact ⟨[.here], rfl⟩
  · rename_i rest
    have hdot : segments ('.' :: '/' :: rest) = segments rest := segments_append ['.'] rest
    exact ⟨[.here], by rw [hdot, ← segments_slash]; rfl⟩
  · exact ⟨[], rfl⟩

/-- The last component of a path is the last one behind a slash, if there is any. -/
theorem getLast?_components {p : Path} {q : Text} (hq : segments q ≠ [])
    (h : p.text = q ∨ ∃ before, p.text = before ++ '/' :: q) :
    p.components.getLast? = (segments q).getLast? := by
  have hend : ∃ before, p.components = before ++ segments q := by
    obtain ⟨before, hbefore⟩ := exists_components_eq p.text
    rcases h with h | ⟨above, h⟩
    · exact ⟨before, h ▸ hbefore⟩
    · refine ⟨before ++ segments above, ?_⟩
      rw [List.append_assoc, ← segments_append, ← h]
      exact hbefore
  obtain ⟨before, hbefore⟩ := hend
  rw [hbefore, List.getLast?_append, List.getLast?_eq_some_getLast hq, Option.some_or]

/-- Behind a slash alone, a path without components has no file name. -/
theorem fileName?_slash_of_segments_nil {q : Text} (hq : segments q = []) :
    fileName? ⟨'/' :: q⟩ = none := by
  have hcomponents : components ⟨'/' :: q⟩ = .root :: segments q := rfl
  rw [fileName?, hcomponents, hq]
  rfl

/-- A path along `q` has the file name that `q` has behind a slash alone. -/
theorem fileName?_join {root q : Path} (hq : ¬ q.isAbsolute) {name : Text}
    (h : fileName? ⟨'/' :: q.text⟩ = some name) : (root.join q).fileName? = some name := by
  have hne : segments q.text ≠ [] := by
    intro hnil
    rw [fileName?_slash_of_segments_nil hnil] at h
    cases h
  rw [fileName?, getLast?_components (p := ⟨'/' :: q.text⟩) hne (.inr ⟨[], rfl⟩)] at h
  rw [fileName?, getLast?_components hne (text_join hq)]
  exact h

/-- A path along `q` has the extension that `q` has behind a slash alone. -/
theorem extension?_join {root q : Path} (hq : ¬ q.isAbsolute) {e : Text}
    (h : extension? ⟨'/' :: q.text⟩ = some e) : (root.join q).extension? = some e := by
  obtain ⟨name, hname, he⟩ := Option.bind_eq_some_iff.1 h
  rw [extension?, fileName?_join hq hname]
  exact he

/-! ## Extensions -/

/-- A name is parted at its last dot, unless it begins with this dot. -/
theorem splitName?_eq_some_iff {name before e : Text} :
    splitName? name = some (before, e) ↔ name = before ++ '.' :: e ∧ before ≠ [] ∧ '.' ∉ e := by
  have hparts : ∀ {a b : Text}, Text.splitFirst? '.' name.reverse = some (a, b) ↔
      name = b.reverse ++ '.' :: a.reverse ∧ '.' ∉ a := by
    intro a b
    rw [Text.splitFirst?_eq_some_iff, ← List.reverse_inj, List.reverse_reverse]
    simp
  constructor
  · intro h
    unfold splitName? at h
    split at h
    · cases h
    · cases h
    · rename_i a b hb hsplit
      cases h
      obtain ⟨hname, ha⟩ := hparts.1 hsplit
      exact ⟨hname, by simpa using hb, by simpa using ha⟩
  · rintro ⟨hname, hbefore, he⟩
    have hsplit : Text.splitFirst? '.' name.reverse = some (e.reverse, before.reverse) :=
      hparts.2 ⟨by simpa using hname, by simpa using he⟩
    obtain ⟨c, t, hct⟩ := List.exists_cons_of_ne_nil (List.reverse_ne_nil_iff.2 hbefore)
    rw [splitName?, hsplit, hct]
    simp only
    rw [← hct, List.reverse_reverse, List.reverse_reverse]

/-- There is no slash in a file name. -/
theorem slash_not_mem_fileName? {p : Path} {name : Text} (h : p.fileName? = some name) :
    '/' ∉ name := by
  have hmem : Component.name name ∈ p.components := by
    unfold fileName? at h
    split at h
    · cases h
      exact List.mem_of_getLast? ‹_›
    · cases h
  unfold components start at hmem
  rcases List.mem_append.1 hmem with hfirst | hsegment
  · split at hfirst <;> simp at hfirst
  · obtain ⟨piece, hpiece, hsegment⟩ := List.mem_filterMap.1 hsegment
    obtain rfl : piece = name := by
      unfold segment? at hsegment
      split at hsegment
      · cases hsegment
      · split at hsegment <;> cases hsegment
        rfl
    exact Text.not_mem_of_mem_splitOn hpiece

/-- There are neither dots nor slashes in an extension. -/
theorem not_mem_extension? {p : Path} {e : Text} (h : p.extension? = some e) :
    '.' ∉ e ∧ '/' ∉ e := by
  obtain ⟨name, hname, he⟩ := Option.bind_eq_some_iff.1 h
  obtain ⟨⟨before, after⟩, hsplit, rfl⟩ := Option.map_eq_some_iff.1 he
  obtain ⟨hparts, -, hdot⟩ := splitName?_eq_some_iff.1 hsplit
  have hslash := slash_not_mem_fileName? hname
  rw [hparts] at hslash
  exact ⟨hdot, fun hmem => hslash (List.mem_append_right _ (List.mem_cons_of_mem _ hmem))⟩

/-- A file with a name that ends in a dot and a text without dots has this text as its extension,
unless the name begins with the dot. -/
theorem extension?_of_fileName? {p : Path} {before e : Text}
    (hname : p.fileName? = some (before ++ '.' :: e)) (he : '.' ∉ e) :
    p.extension? = if before = [] then none else some e := by
  rw [extension?, hname, Option.bind_some]
  split
  · subst before
    rw [Option.map_eq_none_iff, Option.eq_none_iff_forall_not_mem]
    intro ⟨before, e'⟩ hsplit
    obtain ⟨hparts, hbefore, -⟩ := splitName?_eq_some_iff.1 hsplit
    obtain ⟨c, t, rfl⟩ := List.exists_cons_of_ne_nil hbefore
    exact he ((List.cons.inj hparts).2 ▸ by simp)
  · rw [splitName?_eq_some_iff.2 ⟨rfl, ‹_›, he⟩]
    rfl

end Stencil.Path
