import Stencil.Proofs.Template.First
import Stencil.Proofs.Template.Placeholders
import Stencil.Proofs.Text.Replace

/-!
# Escaped braces in paths

In the path of a file reference, closing braces are written behind a backslash. The grammar reads
any path back that is written like this (`unescapePath_escapePath`). The scan passes over it
(`closes_escapePath`) as long as no backslash of the path itself takes the one before a brace with
it, or the closing braces. It is enough that no backslash of the path stands before a closing brace
or at its end: then the reference is the token that it was meant to be, in every text that it can be
the first token of (`first_token_of_path`).
-/

namespace Stencil.Body

/-- A path as it is written in a file reference, with a backslash before each closing brace. -/
def escapePath (s : Text) : Text :=
  s.flatMap fun c => if c = '}' then ['\\', '}'] else [c]

/-- Read from left to right, each backslash of a path takes a character with it that is no closing
brace. -/
inductive Escapable : Text → Prop
  | nil : Escapable []
  | brace {s : Text} (h : Escapable s) : Escapable ('}' :: s)
  | escape {c : Char} {s : Text} (hc : c ≠ '}') (h : Escapable s) : Escapable ('\\' :: c :: s)
  | plain {c : Char} {s : Text} (hc : c ≠ '}') (hesc : c ≠ '\\') (h : Escapable s) :
      Escapable (c :: s)

/-- A closing brace gets a backslash. -/
theorem escapePath_brace (s : Text) : escapePath ('}' :: s) = '\\' :: '}' :: escapePath s := rfl

/-- Any other character stays as it is. -/
theorem escapePath_cons {c : Char} (hc : c ≠ '}') (s : Text) :
    escapePath (c :: s) = c :: escapePath s := by
  rw [escapePath, List.flatMap_cons, if_neg hc]
  rfl

/-- A path without a backslash can be escaped. -/
theorem escapable_of_not_mem {s : Text} (h : '\\' ∉ s) : Escapable s := by
  induction s with
  | nil => exact .nil
  | cons c s ih =>
    obtain ⟨hc, hs⟩ := not_or.1 (List.mem_cons.not.1 h)
    by_cases hbrace : c = '}'
    · exact hbrace ▸ .brace (ih hs)
    · exact .plain hbrace (Ne.symm hc) (ih hs)

/-- A path can be escaped if none of its backslashes stands before a closing brace or at its end. -/
theorem escapable_of_no_escaped_brace :
    ∀ {s : Text}, ¬ ['\\', '}'] <:+: s → s.getLast? ≠ some '\\' → Escapable s
  | [], _, _ => .nil
  | [c], _, hend => by
    by_cases hc : c = '}'
    · exact hc ▸ .brace .nil
    · exact .plain hc (by simpa using hend) .nil
  | c :: d :: s, hbrace, hend => by
    have hrest : ¬ ['\\', '}'] <:+: d :: s :=
      fun h => hbrace (h.trans (List.suffix_cons c _).isInfix)
    by_cases hesc : c = '\\'
    · -- A backslash takes the next character with it, which may be a backslash again.
      subst hesc
      have hd : d ≠ '}' := by
        rintro rfl
        exact hbrace ⟨[], s, rfl⟩
      refine .escape hd (escapable_of_no_escaped_brace (fun h => hrest ?_) ?_)
      · exact h.trans (List.suffix_cons d s).isInfix
      · cases s with
        | nil => simp
        | cons e s => simpa using hend
    · have hnext := escapable_of_no_escaped_brace hrest (by simpa using hend)
      by_cases hc : c = '}'
      · exact hc ▸ .brace hnext
      · exact .plain hc hesc hnext

/-! ## Scanning -/

/-- The search for the end of a file reference passes over an escaped path. -/
theorem closeLength?_escapePath {s : Text} (h : Escapable s) (n : Nat) (t : Text) :
    Token.closeLength? false 0 none n (escapePath s ++ '}' :: '}' :: t)
      = some (n + (escapePath s).length + 2) := by
  induction h generalizing n with
  | nil => exact Token.closeLength?_close t
  | @brace s _ ih =>
    rw [escapePath_brace, List.cons_append, List.cons_append, Token.closeLength?_escape, ih,
      List.length_cons, List.length_cons]
    exact congrArg some (by omega)
  | @escape c s hc _ ih =>
    rw [escapePath_cons (by decide), escapePath_cons hc, List.cons_append, List.cons_append,
      Token.closeLength?_escape, ih, List.length_cons, List.length_cons]
    exact congrArg some (by omega)
  | @plain c s hc hesc _ ih =>
    rw [escapePath_cons hc, List.cons_append,
      Token.closeLength?_bare hesc fun hclose => hc hclose.1, ih, List.length_cons]
    exact congrArg some (by omega)

/-- The token of an escaped path ends behind the path. -/
theorem closes_escapePath {s : Text} (h : Escapable s) :
    Token.Closes ('/' :: escapePath s) := by
  intro t
  have hescape : '/' :: escapePath s = escapePath ('/' :: s) :=
    (escapePath_cons (by decide) s).symm
  have hslash : Escapable ('/' :: s) := .plain (by decide) (by decide) h
  have hclose := closeLength?_escapePath hslash 0 t
  rw [Nat.zero_add, ← hescape] at hclose
  exact hclose

/-! ## Reading -/

/-- An escaped path does not begin with a closing brace. -/
theorem head?_escapePath (s : Text) : (escapePath s).head? ≠ some '}' := by
  cases s with
  | nil => simp [escapePath]
  | cons c s =>
    by_cases hbrace : c = '}'
    · rw [hbrace, escapePath_brace]
      simp
    · rw [escapePath_cons hbrace]
      simpa using hbrace

/-- The path is its escaped form with the backslashes before braces taken away. -/
theorem replaced_escapePath (s : Text) : Text.Replaced ['\\', '}'] ['}'] (escapePath s) s := by
  induction s with
  | nil => exact .done
  | cons c s ih =>
    by_cases hbrace : c = '}'
    · rw [hbrace, escapePath_brace]
      exact .found ih
    · rw [escapePath_cons hbrace]
      refine .kept (fun hmark => head?_escapePath s ?_) ih
      obtain ⟨-, rest, hrest⟩ := List.cons_prefix_cons.1 hmark
      rw [← hrest]
      rfl

/-- An escaped path is read back. -/
theorem unescapePath_escapePath (s : Text) : unescapePath (escapePath s) = s :=
  (Text.replace_eq_iff (by simp)).2 (replaced_escapePath s)

/-- The body with an escaped path is a reference to the path. -/
theorem parse_escapePath {s : Text} (hs : s ≠ []) :
    parse ('/' :: escapePath s) = .file ('/' :: s) := by
  have hescape : '/' :: escapePath s = escapePath ('/' :: s) :=
    (escapePath_cons (by decide) s).symm
  obtain ⟨c, t, hct⟩ : ∃ c t, escapePath s = c :: t := by
    obtain ⟨c, s, rfl⟩ := List.exists_cons_of_ne_nil hs
    by_cases hbrace : c = '}'
    · exact ⟨_, _, hbrace ▸ escapePath_brace s⟩
    · exact ⟨_, _, escapePath_cons hbrace s⟩
  have hparse : parse ('/' :: escapePath s) = .file (unescapePath ('/' :: escapePath s)) := by
    rw [hct]
    rfl
  rw [hparse, hescape, unescapePath_escapePath]

/-! ## The first token -/

/-- A reference to a path is the first token of every text in which it stands, written with a
backslash before each closing brace, behind text without opening braces, and the template has the
path. Only the backslashes of the path itself matter: none may stand before a closing brace or at
the end. -/
theorem first_token_of_path {path : Text} (hslash : path.head? = some '/')
    (hlong : 1 < path.length) (hbrace : ¬ ['\\', '}'] <:+: path)
    (hesc : path.getLast? ≠ some '\\') {before : Text} (hopen : ¬ ['{', '{'] <:+: before)
    (hend : before.getLast? ≠ some '{') (after : Text) :
    let inner := escapePath path
    let text := before ++ '{' :: '{' :: (inner ++ '}' :: '}' :: after)
    let span : Token.Span :=
      ⟨Text.byteLength before, Text.byteLength before + Text.byteLength inner + 4⟩
    (Token.scan text).head? = some span ∧
      (Template.parse text).occurrences.head? = some ⟨span, 0⟩ ∧
      (Template.parse text).placeholders.head?
        = some ⟨'{' :: '{' :: (inner ++ ['}', '}']), .file path⟩ := by
  obtain ⟨s, rfl⟩ := List.head?_eq_some_iff.1 hslash
  have hs : s ≠ [] := List.ne_nil_of_length_pos (Nat.lt_of_succ_lt_succ hlong)
  have hescapable : Escapable s := by
    refine escapable_of_no_escaped_brace (fun h => hbrace ?_) ?_
    · exact h.trans (List.suffix_cons '/' s).isInfix
    · obtain ⟨c, s, rfl⟩ := List.exists_cons_of_ne_nil hs
      simpa using hesc
  have hfirst := Template.first_of_closes (closes_escapePath hescapable) hopen hend after
  rwa [parse_escapePath hs, ← escapePath_cons (by decide) s] at hfirst

/-- A path with backslashes, braces of both kinds, quotes, parentheses, and the mark of a default
literal. -/
def strayPath : Text :=
  "/a\\\\\\b\x7b\x7b(é'\x7d\x7d\"|default=\\(.md".toList

/-- The path as it is written. -/
def writtenPath : Text :=
  "/a\\\\\\b\x7b\x7b(é'\\\x7d\\\x7d\"|default=\\(.md".toList

/-- The stray marks of `strayPath` do not mislead the scan. -/
theorem first_token_of_stray_path :
    let text := "é \x7b ".toList ++ '{' :: '{' :: (writtenPath ++ '}' :: '}' :: ['}'])
    strayPath.head? = some '/' ∧ 1 < strayPath.length ∧ ¬ ['\\', '}'] <:+: strayPath ∧
      strayPath.getLast? ≠ some '\\' ∧ ¬ ['{', '{'] <:+: "é \x7b ".toList ∧
      "é \x7b ".toList.getLast? ≠ some '{' ∧
      (Template.parse text).occurrences.head? = some ⟨⟨5, 40⟩, 0⟩ ∧
      (Template.parse text).placeholders.head?
        = some ⟨'{' :: '{' :: (writtenPath ++ ['}', '}']), .file strayPath⟩ := by
  intro text
  have hslash : strayPath.head? = some '/' := by decide
  have hlong : 1 < strayPath.length := by decide
  have hbrace : ¬ ['\\', '}'] <:+: strayPath := by decide +kernel
  have hesc : strayPath.getLast? ≠ some '\\' := by decide
  have hopen : ¬ ['{', '{'] <:+: "é \x7b ".toList := by decide
  have hend : "é \x7b ".toList.getLast? ≠ some '{' := by decide
  have hbefore : Text.byteLength "é \x7b ".toList = 5 := by decide
  have hwritten : escapePath strayPath = writtenPath := by decide
  have hlength : Text.byteLength writtenPath = 31 := by decide
  have hfirst := first_token_of_path hslash hlong hbrace hesc hopen hend ['}']
  simp only [hbefore, hwritten, hlength] at hfirst
  exact ⟨hslash, hlong, hbrace, hesc, hopen, hend, hfirst.2⟩

end Stencil.Body
