import Stencil.Proofs.Text.Replace
import Stencil.Resolve.Error

/-!
# Error markers are closed comments

A placeholder without a value leaves a comment in the document, and the reason that stands in the
comment may come from the template or from a provider. `marker_closes_once` says that whatever it
is, the end mark of comments occurs in a marker once, namely at its end.

Inside, the end mark is broken up, and no new one comes about where the parts meet. The inside is
parted from both marks of the comment by a space, and a space is no part of an end mark.
-/

namespace Stencil

/-- What occurs in two texts with a character between them that it does not have in it occurs in one
of the two. -/
theorem Text.infix_of_infix_append_cons {mark s t : Text} {c : Char} (hc : c ∉ mark)
    (h : mark <:+: s ++ c :: t) : mark <:+: s ∨ mark <:+: t := by
  obtain ⟨before, after, heq⟩ := h
  rcases List.append_eq_append_iff.1 heq with ⟨rest, hs, -⟩ | ⟨rest, hmark, hrest⟩
  · exact .inl ⟨before, rest, hs.symm⟩
  · rcases List.cons_eq_append_iff.1 hrest with ⟨rfl, -⟩ | ⟨rest, rfl, rfl⟩
    · exact .inl ⟨before, [], by rw [List.append_nil, hmark, List.append_nil]⟩
    · -- The character is before the occurrence or in it.
      rcases List.append_eq_append_iff.1 hmark with ⟨r, -, rfl⟩ | ⟨r, -, hr⟩
      · exact absurd (by simp) hc
      · rcases List.cons_eq_append_iff.1 hr with ⟨-, rfl⟩ | ⟨r, -, rfl⟩
        · exact absurd List.mem_cons_self hc
        · exact .inr ⟨r, after, rfl⟩

namespace ResolveError

/-- The end mark of comments. -/
def endMark : Text := "-->".toList

/-- A broken end mark makes up no new one. -/
theorem breaks_endMark : Text.Breaks "-- >".toList endMark :=
  ⟨by decide, by decide⟩

/-- There is no end mark in a marker before the one at its end. -/
theorem not_infix_endMark (text : Text) (h : ¬ endMark <:+: text) :
    ¬ endMark <:+: "<!-- ".toList ++ text ++ " --".toList := by
  have hspace : ' ' ∉ endMark := by decide
  have hopens : ¬ endMark <:+: "<!--".toList := by decide
  have hdashes : ¬ endMark <:+: "--".toList := by decide
  have hparts : "<!-- ".toList ++ text ++ " --".toList
      = "<!--".toList ++ ' ' :: (text ++ ' ' :: "--".toList) := by simp
  rw [hparts]
  intro hinfix
  rcases Text.infix_of_infix_append_cons hspace hinfix with hinfix | hinfix
  · exact hopens hinfix
  · exact (Text.infix_of_infix_append_cons hspace hinfix).elim h hdashes

/-- A marker is the message, with each end mark in it broken up, between the marks of a comment, and
the end mark occurs in the marker at its very end and nowhere else. -/
theorem marker_closes_once (e : ResolveError) :
    ∃ text, Text.Replaced endMark "-- >".toList e.message text ∧
      e.marker = "<!-- ".toList ++ text ++ " -->".toList ∧
      ∀ before after, e.marker = before ++ "-->".toList ++ after ↔
        before = "<!-- ".toList ++ text ++ " ".toList ∧ after = [] := by
  have hne : endMark ≠ [] := List.cons_ne_nil _ _
  have hmarker : e.marker
      = "<!-- ".toList ++ Text.replace endMark "-- >".toList e.message ++ " -->".toList := rfl
  have hreplaced : Text.Replaced endMark "-- >".toList e.message
      (Text.replace endMark "-- >".toList e.message) := (Text.replace_eq_iff hne).1 rfl
  generalize Text.replace endMark "-- >".toList e.message = text at hreplaced hmarker
  have hbroken : ¬ endMark <:+: text := hreplaced.not_infix hne breaks_endMark
  refine ⟨text, hreplaced, hmarker, fun before after => ⟨fun h => ?_, ?_⟩⟩
  · rw [hmarker] at h
    rcases List.eq_nil_or_concat after with rfl | ⟨after, c, rfl⟩
    · have hend : "<!-- ".toList ++ text ++ " ".toList ++ "-->".toList
          = before ++ "-->".toList := by
        simpa using h
      exact ⟨(List.append_cancel_right hend).symm, rfl⟩
    · -- What is before the last character has no end mark in it.
      have hlast : "<!-- ".toList ++ text ++ " --".toList ++ ['>']
          = before ++ "-->".toList ++ after ++ [c] := by
        simpa using h
      obtain ⟨hinit, -⟩ := List.append_inj' hlast rfl
      exact absurd ⟨before, after, hinit.symm⟩ (not_infix_endMark text hbroken)
  · rintro ⟨rfl, rfl⟩
    rw [hmarker]
    simp

end ResolveError

end Stencil
