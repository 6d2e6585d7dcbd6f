import Mathlib.Data.List.Forall2
import Stencil.Filter.Text

/-!
# What text filters ask of their arguments

A text filter looks at its argument alone to decide whether it goes on: it changes every text by a
function of the argument, or fails whatever the candidates are. What it asks of the argument is one
of four demands (`demands`), which `actsBy_table` ties to the filters by their names.
-/

namespace Stencil

/-! ## Arguments -/

namespace Argument

/-- A text is any argument that there is. -/
theorem text_eq (filter : Text) (arg : Option Text) :
    (∃ s t, arg = some s ∧ text filter arg = .ok t) ∨
      arg = none ∧ ∃ e, text filter arg = .error e := by
  cases arg with
  | none => exact .inr ⟨rfl, _, rfl⟩
  | some s => exact .inl ⟨s, _, rfl, rfl⟩

/-- The number that an argument stands for, quotes and blanks around it taken off. -/
def number (arg : Option Text) : Option Nat :=
  arg.bind fun s => number? (Text.trim (unquote (Text.trim s)))

/-- A count is an argument that stands for a number. -/
theorem count_eq (filter : Text) (arg : Option Text) :
    (∃ n, number arg = some n ∧ count filter arg = .ok n) ∨
      number arg = none ∧ ∃ e, count filter arg = .error e := by
  cases arg with
  | none => exact .inr ⟨rfl, _, rfl⟩
  | some s =>
    rw [number, count, Option.bind_some]
    cases number? (Text.trim (unquote (Text.trim s))) with
    | none => exact .inr ⟨rfl, _, rfl⟩
    | some n => exact .inl ⟨n, rfl, rfl⟩

end Argument

namespace TextFilter

/-! ## Demands -/

/-- What a text filter asks of its argument. -/
inductive Demand
  /-- It takes any argument, and none. -/
  | nothing
  /-- It takes a number. -/
  | count
  /-- It takes any argument, but there has to be one. -/
  | text
  /-- It takes two texts, the first one not empty. -/
  | pair

/-- Whether an argument is what is asked for. -/
def Demand.Meets (arg : Option Text) : Demand → Prop
  | nothing => True
  | count => ∃ n, Argument.number arg = some n
  | text => arg ≠ none
  | pair => ∃ s pattern value, arg = some s ∧ Argument.split s = [pattern, value] ∧ pattern ≠ []

/-- What the text filters ask of their arguments. -/
def demands : List (String × Demand) :=
  [("upper", .nothing), ("lower", .nothing), ("trim", .nothing), ("truncate", .count),
    ("lines", .count), ("prefix", .text), ("suffix", .text), ("replace", .pair)]

/-- There is a text filter of a name, and it takes an argument. -/
def Accepts (name : Text) (arg : Option Text) : Prop :=
  ∃ d, demands.lookup (String.ofList name) = some d ∧ d.Meets arg

/-- A filter changes texts if its argument is what is asked for, and fails otherwise. -/
structure ActsBy (filter : Filter) (d : Demand) : Prop where
  maps : ∀ arg, d.Meets arg → ∃ f, ∀ cs, filter cs arg = .ok (mapText f cs)
  fails : ∀ arg, ¬ d.Meets arg → ∀ cs, ∃ e, filter cs arg = .error e

/-- A filter without an argument asks for nothing. -/
theorem actsBy_nothing (f : Text → Text) : ActsBy (fun cs _ => .ok (mapText f cs)) .nothing :=
  ⟨fun _ _ => ⟨f, fun _ => rfl⟩, fun _ h => absurd trivial h⟩

/-- A filter that changes texts by a number asks for one. -/
theorem actsBy_count {filter : Filter} {name : Text} {f : Nat → Text → Text}
    (h : ∀ cs arg, filter cs arg = do
      let n ← Argument.count name arg
      return mapText (f n) cs) : ActsBy filter .count := by
  constructor <;> intro arg harg <;>
    rcases Argument.count_eq name arg with ⟨n, hn, hcount⟩ | ⟨hnone, e, hcount⟩
  · exact ⟨f n, fun cs => by rw [h, hcount]; rfl⟩
  · obtain ⟨n, hn⟩ := harg
    cases hnone.symm.trans hn
  · exact absurd ⟨n, hn⟩ harg
  · exact fun cs => ⟨e, by rw [h, hcount]; rfl⟩

/-- A filter that changes texts by a text asks for one. -/
theorem actsBy_text {filter : Filter} {name : Text} {f : Text → Text → Text}
    (h : ∀ cs arg, filter cs arg = do
      let added ← Argument.text name arg
      return mapText (f added) cs) : ActsBy filter .text := by
  constructor <;> intro arg harg <;>
    rcases Argument.text_eq name arg with ⟨s, t, hs, htext⟩ | ⟨hnone, e, htext⟩
  · exact ⟨f t, fun cs => by rw [h, htext]; rfl⟩
  · exact absurd hnone harg
  · exact absurd (show arg ≠ none by simp [hs]) harg
  · exact fun cs => ⟨e, by rw [h, htext]; rfl⟩

/-- The replacement asks for a pattern and a value. -/
theorem actsBy_pair : ActsBy replace .pair := by
  constructor
  · rintro _ ⟨s, pattern, value, rfl, hsplit, hne⟩
    refine ⟨Text.replace pattern value, fun cs => ?_⟩
    simp [replace, hsplit, hne]
  · intro arg harg cs
    cases arg with
    | none => exact ⟨_, rfl⟩
    | some s =>
      simp only [replace]
      split
      · rename_i pattern value hsplit
        by_cases hne : pattern = []
        · exact ⟨_, by rw [hne]; rfl⟩
        · exact absurd ⟨s, pattern, value, rfl, hsplit, hne⟩ harg
      · exact ⟨_, rfl⟩

/-- Each filter of the table acts by the demand of the same name. -/
theorem actsBy_table :
    List.Forall₂ (fun entry entry' => entry.1 = entry'.1 ∧ ActsBy entry.2 entry'.2)
      table demands := by
  refine .cons ⟨rfl, actsBy_nothing _⟩ (.cons ⟨rfl, actsBy_nothing _⟩
    (.cons ⟨rfl, actsBy_nothing _⟩ (.cons ⟨rfl, actsBy_count fun _ _ => rfl⟩
    (.cons ⟨rfl, actsBy_count fun _ _ => rfl⟩ (.cons ⟨rfl, actsBy_text fun _ _ => rfl⟩
    (.cons ⟨rfl, actsBy_text fun _ _ => rfl⟩ (.cons ⟨rfl, actsBy_pair⟩ .nil)))))))

/-- In two tables with the same names, what is found under a name is related if the entries are. -/
theorem lookup_of_forall₂ {α β : Type} {R : α → β → Prop} {as : List (String × α)}
    {bs : List (String × β)} (h : List.Forall₂ (fun a b => a.1 = b.1 ∧ R a.2 b.2) as bs)
    (key : String) :
    as.lookup key = none ∧ bs.lookup key = none ∨
      ∃ a b, as.lookup key = some a ∧ bs.lookup key = some b ∧ R a b := by
  induction h with
  | nil => exact .inl ⟨rfl, rfl⟩
  | @cons entry entry' as bs hentry _ ih =>
    obtain ⟨name, a⟩ := entry
    obtain ⟨_, b⟩ := entry'
    obtain ⟨rfl, hr⟩ := hentry
    simp only [List.lookup_cons]
    cases key == name with
    | true => exact .inr ⟨a, b, rfl, rfl, hr⟩
    | false => exact ih

end TextFilter

end Stencil
