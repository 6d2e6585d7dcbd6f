import Mathlib.Data.List.Forall2

/-!
# Steps that can fail

What comes of a list if a function that can fail is applied to its elements one after the other: the
results of all of them (`mapM_eq_ok_iff`, `exists_mapM`), or the error of the first one that fails
(`mapM_eq_error_iff`).
-/

namespace Stencil

variable {α β ε : Type}

/-- What succeeds after a first step has succeeded in that step. -/
theorem bind_eq_ok {x : Except ε α} {f : α → Except ε β} {b : β} (h : x >>= f = .ok b) :
    ∃ a, x = .ok a ∧ f a = .ok b := by
  cases x with
  | error e => cases h
  | ok a => exact ⟨a, rfl, h⟩

/-! ## With an error -/

section Errors

variable {f : α → Except ε β} {l : List α}

/-- All of a list succeed exactly if each does. -/
theorem mapM_eq_ok_iff {l' : List β} :
    l.mapM f = .ok l' ↔ List.Forall₂ (fun a b => f a = .ok b) l l' := by
  induction l generalizing l' with
  | nil =>
    rw [List.forall₂_nil_left_iff]
    exact ⟨fun h => by cases h; rfl, fun h => h ▸ rfl⟩
  | cons a l ih =>
    rw [List.mapM_cons, List.forall₂_cons_left_iff]
    constructor
    · intro h
      obtain ⟨b, hb, h⟩ := bind_eq_ok h
      obtain ⟨bs, hbs, h⟩ := bind_eq_ok h
      cases h
      exact ⟨b, bs, hb, ih.1 hbs, rfl⟩
    · rintro ⟨b, bs, hb, hbs, rfl⟩
      rw [hb, ih.2 hbs]
      rfl

/-- A list fails exactly if one of its elements does behind others that succeed, and with the error
of this one. -/
theorem mapM_eq_error_iff {e : ε} :
    l.mapM f = .error e ↔ ∃ before a after, l = before ++ a :: after ∧
      (∀ b ∈ before, ∃ y, f b = .ok y) ∧ f a = .error e := by
  constructor
  · intro h
    induction l with
    | nil => cases h
    | cons a l ih =>
      cases ha : f a with
      | error e' =>
        rw [List.mapM_cons, ha] at h
        cases h
        exact ⟨[], a, l, rfl, by simp, ha⟩
      | ok y =>
        rw [List.mapM_cons, ha] at h
        cases hl : l.mapM f with
        | error e' =>
          rw [hl] at h
          cases h
          obtain ⟨before, a', after, rfl, hbefore, ha'⟩ := ih hl
          exact ⟨a :: before, a', after, rfl, List.forall_mem_cons.2 ⟨⟨y, ha⟩, hbefore⟩, ha'⟩
        | ok ys =>
          rw [hl] at h
          cases h
  · rintro ⟨before, a, after, rfl, hbefore, ha⟩
    induction before with
    | nil =>
      rw [List.nil_append, List.mapM_cons, ha]
      rfl
    | cons b before ih =>
      obtain ⟨⟨y, hy⟩, hbefore⟩ := List.forall_mem_cons.1 hbefore
      rw [List.cons_append, List.mapM_cons, hy, ih hbefore]
      rfl

end Errors

/-! ## Without an error -/

section Options

variable {f : α → Option β} {l : List α}

/-- The values of a list, one by one, if there are all of them. -/
theorem map_of_mapM {l' : List β} (h : l.mapM f = some l') : l.map f = l'.map some := by
  induction l generalizing l' with
  | nil =>
    cases h
    rfl
  | cons a l ih =>
    rw [List.mapM_cons, Option.bind_eq_bind, Option.bind_eq_some_iff] at h
    obtain ⟨b, hb, h⟩ := h
    rw [Option.bind_eq_bind, Option.bind_eq_some_iff] at h
    obtain ⟨bs, hbs, h⟩ := h
    cases h
    rw [List.map_cons, List.map_cons, hb, ih hbs]

/-- There are values for all of a list if there is one for each. -/
theorem exists_mapM (h : ∀ a ∈ l, (f a).isSome) : ∃ l', l.mapM f = some l' := by
  induction l with
  | nil => exact ⟨[], rfl⟩
  | cons a l ih =>
    obtain ⟨ha, hl⟩ := List.forall_mem_cons.1 h
    obtain ⟨b, hb⟩ := Option.isSome_iff_exists.1 ha
    obtain ⟨bs, hbs⟩ := ih hl
    exact ⟨b :: bs, by rw [List.mapM_cons, hb, hbs]; rfl⟩

end Options

end Stencil
