import Stencil.Proofs.Template.Closing
import Stencil.Template.Basic

/-!
# The placeholders of a template

The placeholders of a template are the readings of its tokens (`mem_placeholders`). A token that
stands alone has one (`parse_of_closes`).
-/

namespace Stencil

namespace Template

/-- A text is the token of a placeholder if and only if it is one of the pieces. -/
theorem mem_placeholders {text : Text} {p : Placeholder} :
    p ∈ (parse text).placeholders ↔
      .token p.raw ∈ Token.pieces text ∧ p = Placeholder.parse p.raw := by
  have htoken : ∀ raw, raw ∈ (tokens (Token.pieces text)).eraseDups ↔
      .token raw ∈ Token.pieces text := by
    intro raw
    rw [List.mem_eraseDups, tokens, List.mem_filterMap]
    constructor
    · rintro ⟨piece, hpiece, hraw⟩
      cases piece with
      | plain s => cases hraw
      | token raw' =>
        cases hraw
        exact hpiece
    · exact fun h => ⟨_, h, rfl⟩
  constructor
  · intro h
    obtain ⟨raw, hraw, rfl⟩ := List.mem_map.1 h
    exact ⟨(htoken raw).1 hraw, rfl⟩
  · rintro ⟨hraw, hp⟩
    rw [hp]
    exact List.mem_map_of_mem ((htoken p.raw).2 hraw)

/-- A token that stands alone is the one piece and the one placeholder of its template. -/
theorem parse_of_closes {inner : Text} (h : Token.Closes inner) :
    (parse (Token.braced inner)).pieces = [.plain [], .token (Token.braced inner), .plain []] ∧
      (parse (Token.braced inner)).placeholders = [Placeholder.parse (Token.braced inner)] := by
  have hpieces := Token.pieces_of_closes h
  refine ⟨hpieces, ?_⟩
  simp only [parse]
  rw [hpieces]
  rfl

end Template

end Stencil
