import Mathlib.Data.List.Nodup
import Stencil.World

/-!
# Looking up environment variables

A variable is looked for among entries that are written `name=value`, by the text that stands before
an equals sign. No name has an equals sign in it, but a key may have one, and it then runs into the
value of the variable that its beginning names. `WellFormed.get?_eq_some_iff` says what is found:
the value of the variable with the name that is asked for, or what stands behind the key in such an
entry. For a key without equals signs, it is the variable with exactly this name (`shows_iff_mem`).
-/

namespace Stencil.Environment

/-- Each name is set once. Names are not empty and have no equals sign, and nothing has NUL in it.
-/
structure WellFormed (env : Environment) : Prop where
  nodup : (env.entries.map Prod.fst).Nodup
  ne_nil : ∀ entry ∈ env.entries, entry.1 ≠ []
  not_equals : ∀ entry ∈ env.entries, '=' ∉ entry.1
  not_nul : ∀ entry ∈ env.entries, '\x00' ∉ entry.1 ∧ '\x00' ∉ entry.2

/-- A value is found under a key: it is that of the variable with this name, or the key begins with
the name of a variable and goes on with an equals sign and the beginning of its value, and the value
is what is left behind the next equals sign. -/
def Shows (env : Environment) (key value : Text) : Prop :=
  (key, value) ∈ env.entries ∨
    ∃ name start, key = name ++ '=' :: start ∧ (name, start ++ '=' :: value) ∈ env.entries

variable {env : Environment} {key value : Text}

/-- A key without equals signs shows the variable with this name. -/
theorem shows_iff_mem (hkey : '=' ∉ key) : env.Shows key value ↔ (key, value) ∈ env.entries := by
  refine ⟨?_, .inl⟩
  rintro (h | ⟨name, start, rfl, -⟩)
  · exact h
  · exact absurd (by simp) hkey

/-- An entry that is written with a name without equals signs begins with a key in one of two
ways. -/
theorem written_eq_iff {name content : Text} (hname : '=' ∉ name) :
    name ++ '=' :: content = key ++ '=' :: value ↔
      (key = name ∧ content = value) ∨
        ∃ start, key = name ++ '=' :: start ∧ content = start ++ '=' :: value := by
  constructor
  · intro h
    rcases List.append_eq_append_iff.1 h with ⟨a, hkey, hcontent⟩ | ⟨a, hkey, hvalue⟩
    · cases a with
      | nil =>
        rw [List.append_nil] at hkey
        exact .inl ⟨hkey, (List.cons.inj hcontent).2⟩
      | cons c start =>
        obtain ⟨rfl, htail⟩ := List.cons.inj hcontent
        exact .inr ⟨start, hkey, htail⟩
    · cases a with
      | nil =>
        rw [List.append_nil] at hkey
        exact .inl ⟨hkey.symm, (List.cons.inj hvalue).2.symm⟩
      | cons c start =>
        -- The equals sign behind the key would be in the name.
        obtain ⟨rfl, -⟩ := List.cons.inj hvalue
        exact absurd (by simp [hkey]) hname
  · rintro (⟨rfl, rfl⟩ | ⟨start, rfl, rfl⟩)
    · rfl
    · simp

/-- A key is the beginning of one entry at most. -/
theorem name_unique {name name' content content' value' : Text} (hname : '=' ∉ name)
    (hname' : '=' ∉ name') (h : name ++ '=' :: content = key ++ '=' :: value)
    (h' : name' ++ '=' :: content' = key ++ '=' :: value') : name = name' := by
  rcases (written_eq_iff hname).1 h with ⟨rfl, -⟩ | ⟨start, rfl, -⟩
  · rcases (written_eq_iff hname').1 h' with ⟨rfl, -⟩ | ⟨start', rfl, -⟩
    · rfl
    · exact absurd (by simp) hname
  · rcases (written_eq_iff hname').1 h' with ⟨rfl, -⟩ | ⟨start', hstart, -⟩
    · exact absurd (by simp) hname'
    · rcases (written_eq_iff hname).1 hstart with ⟨heq, -⟩ | ⟨rest, rfl, -⟩
      · exact heq.symm
      · exact absurd (by simp) hname'

/-- An entry makes the look-up of a key come to a value exactly if it is written with the key, an
equals sign and the value. -/
theorem dropMark?_written {entry : Text × Text} :
    Text.dropMark? (key ++ ['=']) (entry.1 ++ '=' :: entry.2) = some value ↔
      entry.1 ++ '=' :: entry.2 = key ++ '=' :: value := by
  rw [Text.dropMark?_eq_some_iff, List.append_assoc]
  rfl

/-- A value is shown exactly if an entry is written with the key, an equals sign and the value. -/
theorem WellFormed.shows_iff_written (h : env.WellFormed) :
    env.Shows key value ↔
      ∃ entry ∈ env.entries, entry.1 ++ '=' :: entry.2 = key ++ '=' :: value := by
  constructor
  · rintro (hentry | ⟨name, start, rfl, hentry⟩)
    · exact ⟨_, hentry, rfl⟩
    · exact ⟨_, hentry, by simp⟩
  · rintro ⟨⟨name, content⟩, hentry, hwritten⟩
    rcases (written_eq_iff (h.not_equals _ hentry)).1 hwritten with ⟨rfl, rfl⟩ | ⟨start, rfl, rfl⟩
    · exact .inl hentry
    · exact .inr ⟨name, start, rfl, hentry⟩

/-- A key that shows a value can be asked for: it is not empty and has no NUL in it. -/
theorem WellFormed.key_of_shows (h : env.WellFormed) (hshows : env.Shows key value) :
    (key.isEmpty || decide ('\x00' ∈ key)) = false := by
  have hkey : key ≠ [] ∧ '\x00' ∉ key := by
    rcases hshows with hentry | ⟨name, start, rfl, hentry⟩
    · exact ⟨h.ne_nil _ hentry, (h.not_nul _ hentry).1⟩
    · obtain ⟨hname, hcontent⟩ := h.not_nul _ hentry
      simp only [List.mem_append, not_or] at hcontent
      simp [hname, hcontent.1]
  simp [hkey.1, hkey.2]

/-- What is found under a key is what the environment shows for it. -/
theorem WellFormed.get?_eq_some_iff (h : env.WellFormed) :
    env.get? key = some value ↔ env.Shows key value := by
  have hfind : (env.entries.findSome? fun entry =>
      Text.dropMark? (key ++ ['=']) (entry.1 ++ '=' :: entry.2)) = some value ↔
        env.Shows key value := by
    rw [h.shows_iff_written]
    constructor
    · intro hsome
      obtain ⟨entry, hentry, hvalue⟩ := List.exists_of_findSome?_eq_some hsome
      exact ⟨entry, hentry, dropMark?_written.1 hvalue⟩
    · rintro ⟨entry, hentry, hwritten⟩
      cases hsome : env.entries.findSome? fun entry =>
          Text.dropMark? (key ++ ['=']) (entry.1 ++ '=' :: entry.2) with
      | none =>
        have hnone := List.findSome?_eq_none_iff.1 hsome entry hentry
        cases hnone.symm.trans (dropMark?_written.2 hwritten)
      | some value' =>
        -- The entry that is found has the same name, so that it is the same entry.
        obtain ⟨entry', hentry', hvalue'⟩ := List.exists_of_findSome?_eq_some hsome
        have hwritten' := dropMark?_written.1 hvalue'
        have hname :=
          name_unique (h.not_equals _ hentry) (h.not_equals _ hentry') hwritten hwritten'
        obtain rfl := List.inj_on_of_nodup_map h.nodup hentry hentry' hname
        rw [hwritten] at hwritten'
        rw [(List.cons.inj (List.append_cancel_left hwritten')).2]
  by_cases hkey : (key.isEmpty || decide ('\x00' ∈ key)) = true
  · rw [get?, if_pos hkey]
    refine iff_of_false (by simp) fun hshows => ?_
    rw [h.key_of_shows hshows] at hkey
    cases hkey
  · rw [get?, if_neg hkey]
    exact hfind

end Stencil.Environment
