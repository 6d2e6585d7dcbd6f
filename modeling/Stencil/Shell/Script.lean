import Stencil.Text.Basic

/-!
# Shell scripts

The small part of the shell language that commands in a configuration use: simple commands of words
with quotes and variables, joined by `;`, `&&` and `||`, whose output may be sent to the error
output by `>&2`.
-/

namespace Stencil.Shell

/-- A stretch of a word. -/
inductive Stretch
  | plain (s : Text)
  | variable (name : Text)
  /-- `$$`, the number of the process. -/
  | process
  /-- `$?`, the status of the last command. -/
  | status
  deriving DecidableEq, Repr

/-- The stretches of a word, each with whether it is quoted. -/
abbrev Word := List (Bool × Stretch)

/-- What a script is made of. -/
inductive Lexeme
  | word (w : Word)
  /-- `;` or the end of a line. -/
  | stop
  /-- `&&` -/
  | andThen
  /-- `||` -/
  | orElse
  /-- `>&2` -/
  | toError
  deriving DecidableEq, Repr

/-- When a command runs, given the status of the one before. -/
inductive Condition
  | always
  | afterSuccess
  | afterFailure
  deriving DecidableEq, Repr

/-- A simple command. -/
structure Command where
  condition : Condition
  words : List Word
  toError : Bool

/-! ## Lexemes -/

/-- The quote that is open while a script is read. -/
inductive Quoting
  | none
  | single
  | double
  deriving DecidableEq, Repr

/-- What has been read of a script: the lexemes and the stretches of the word that is being read,
the last one first. A word can be empty if it is quoted. -/
structure Scanner where
  lexemes : List Lexeme := []
  word : Option Word := none

namespace Scanner

/-- Adds a stretch to the word that is being read. -/
def add (st : Scanner) (quoted : Bool) (x : Stretch) : Scanner :=
  { st with word := some ((quoted, x) :: st.word.getD []) }

/-- Ends the word that is being read. -/
def flush (st : Scanner) : Scanner :=
  match st.word with
  | none => st
  | some w => ⟨.word w.reverse :: st.lexemes, none⟩

/-- Ends the word that is being read and adds a lexeme. -/
def mark (st : Scanner) (x : Lexeme) : Scanner :=
  ⟨x :: st.flush.lexemes, none⟩

end Scanner

/-- The characters of variable names. -/
def isNameChar (c : Char) : Bool :=
  c.isAlphanum || c = '_'

/-- Reads what a dollar sign stands for, and returns it with what follows. -/
def expansion (s : Text) : Stretch × Text :=
  match s with
  | '$' :: s => (.process, s)
  | '?' :: s => (.status, s)
  | '\x7b' :: rest =>
    let name := rest.takeWhile isNameChar
    match rest.dropWhile isNameChar with
    | '\x7d' :: s => (.variable name, s)
    | _ => (.plain ['$'], s)
  | _ =>
    match s.takeWhile isNameChar with
    | [] => (.plain ['$'], s)
    | name => (.variable name, s.dropWhile isNameChar)

/-- Reads a script; `none` if a quote is left open. The number bounds the steps. -/
def scan : Nat → Quoting → Scanner → Text → Option (List Lexeme)
  | _, .none, st, [] => some (st.mark .stop).lexemes.reverse
  | _, _, _, [] => none
  | 0, _, _, _ => none
  | bound + 1, .single, st, c :: s =>
    if c = '\'' then scan bound .none (st.add true (.plain [])) s
    else scan bound .single (st.add true (.plain [c])) s
  | bound + 1, .double, st, c :: s =>
    if c = '"' then scan bound .none (st.add true (.plain [])) s
    else if c = '$' then
      let (x, s) := expansion s
      scan bound .double (st.add true x) s
    else if c = '\\' then
      match s with
      | d :: s =>
        -- Between double quotes a backslash stays where it has nothing to protect.
        let kept := if d = '$' ∨ d = '"' ∨ d = '\\' ∨ d = '\x60' then [d] else ['\\', d]
        scan bound .double (st.add true (.plain kept)) s
      | [] => none
    else scan bound .double (st.add true (.plain [c])) s
  | bound + 1, .none, st, c :: s =>
    if c = '\'' then scan bound .single (st.add true (.plain [])) s
    else if c = '"' then scan bound .double (st.add true (.plain [])) s
    else if c = '$' then
      let (x, s) := expansion s
      scan bound .none (st.add false x) s
    else if c = '\\' then
      match s with
      | d :: s => scan bound .none (st.add true (.plain [d])) s
      | [] => scan bound .none (st.add true (.plain ['\\'])) []
    else if c = ' ' ∨ c = '\t' then scan bound .none st.flush s
    else if c = ';' ∨ c = '\n' then scan bound .none (st.mark .stop) s
    else
      match c :: s with
      | '&' :: '&' :: s => scan bound .none (st.mark .andThen) s
      | '|' :: '|' :: s => scan bound .none (st.mark .orElse) s
      | '>' :: '&' :: '2' :: s => scan bound .none (st.mark .toError) s
      | '1' :: '>' :: '&' :: '2' :: s =>
        if st.word.isNone then scan bound .none (st.mark .toError) s
        else scan bound .none (st.add false (.plain ['1'])) ('>' :: '&' :: '2' :: s)
      | _ => scan bound .none (st.add false (.plain [c])) s

/-! ## Commands -/

/-- The commands that lexemes make up. `c` is the command that is being read, its words in
reverse. -/
def commands (done : List Command) (c : Command) : List Lexeme → List Command
  | [] => done.reverse
  | .word w :: rest => commands done { c with words := w :: c.words } rest
  | .toError :: rest => commands done { c with toError := true } rest
  | .stop :: rest => commands (close c done) ⟨.always, [], false⟩ rest
  | .andThen :: rest => commands (close c done) ⟨.afterSuccess, [], false⟩ rest
  | .orElse :: rest => commands (close c done) ⟨.afterFailure, [], false⟩ rest
where
  /-- Adds a command unless it has no words. -/
  close (c : Command) (done : List Command) : List Command :=
    if c.words.isEmpty then done else { c with words := c.words.reverse } :: done

/-- The commands of a script; `none` if a quote is left open. -/
def parse? (s : Text) : Option (List Command) :=
  (scan (s.length + 1) .none {} s).map (commands [] ⟨.always, [], false⟩)

end Stencil.Shell
