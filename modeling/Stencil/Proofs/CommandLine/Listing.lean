import Stencil.CommandLine.Report

/-!
# What a check lists

A check lists the placeholders of a template one by one, as values for a program or in lines for a
reader. `ShownBy` says what a value shows of an entry, and `ToldBy` what a line tells of it.
-/

namespace Stencil.CommandLine.CheckEntry

/-- What a value shows of an entry. -/
structure ShownBy (e : CheckEntry) (v : Value) : Prop where
  /-- The token. -/
  raw : v.field? "raw".toList = some (.text e.placeholder.raw)
  /-- The number of places. -/
  occurrences : v.field? "occurrences".toList = some (.ofNat e.occurrences)
  /-- The kind is `malformed` exactly for a token that is. -/
  malformed : v.field? "kind".toList = some (.ofString "malformed") ↔
    e.placeholder.isMalformed = true
  /-- An error is shown exactly if the token has it. -/
  error : ∀ message, v.field? "error".toList = some (.text message) ↔
    ∃ reason, e.placeholder.body = .malformed reason ∧ message = reason.message
  /-- The kind is `variable` exactly for a variable. -/
  lookup : v.field? "kind".toList = some (.ofString "variable") ↔
    ∃ x, e.placeholder.body = .lookup x
  /-- The kind is `file` exactly for a file reference. -/
  file : v.field? "kind".toList = some (.ofString "file") ↔
    ∃ path, e.placeholder.body = .file path
  /-- Whether the type is registered is shown of variables only. -/
  registered : ∀ b, v.field? "registered".toList = some (.bool b) ↔
    (∃ x, e.placeholder.body = .lookup x) ∧ e.registered = b

/-- What is remarked about an entry. -/
inductive Remark (e : CheckEntry) : Text → Prop
  /-- The error of the token. -/
  | malformed {reason : ParseError} (h : e.placeholder.body = .malformed reason) :
    Remark e ("error: ".toList ++ reason.message)
  /-- That only fallbacks are left. -/
  | unregistered {x : Variable} (h : e.placeholder.body = .lookup x)
    (hregistered : e.registered = false) :
    Remark e "unregistered type (default/environment fallback only)".toList
  /-- That it is a variable. -/
  | registered {x : Variable} (h : e.placeholder.body = .lookup x)
    (hregistered : e.registered = true) : Remark e "variable".toList
  /-- That it is a file reference. -/
  | file {path : Text} (h : e.placeholder.body = .file path) : Remark e "file".toList

/-- The line tells the mark, the token, the number of places and a remark. -/
def ToldBy (e : CheckEntry) (line : Text) : Prop :=
  ∃ remark, e.Remark remark ∧
    line = ' ' :: ' ' :: (if e.placeholder.isMalformed then '✗' else '✓') :: ' '
      :: (e.placeholder.raw ++ " x".toList ++ Text.ofNat e.occurrences ++ " (".toList ++ remark
        ++ ")".toList)

section Fields

variable (e : CheckEntry)

/-- The field `kind` of a value depends on the kind of the body. -/
theorem field?_kind : e.value.field? "kind".toList = some (.ofString
    (match e.placeholder.body with
    | .file _ => "file"
    | .lookup _ => "variable"
    | .malformed _ => "malformed")) := by
  rw [value]
  cases e.placeholder.body <;> rfl

/-- The field `error` of a value is there for malformed tokens. -/
theorem field?_error : e.value.field? "error".toList =
    match e.placeholder.body with
    | .malformed reason => some (.text reason.message)
    | _ => none := by
  rw [value]
  cases e.placeholder.body <;> rfl

/-- The field `registered` of a value is there for variables. -/
theorem field?_registered : e.value.field? "registered".toList =
    match e.placeholder.body with
    | .lookup _ => some (.bool e.registered)
    | _ => none := by
  rw [value]
  cases e.placeholder.body <;> rfl

/-- The value of an entry shows what it should. -/
theorem shownBy_value : e.ShownBy e.value where
  raw := by
    rw [value]
    cases e.placeholder.body <;> rfl
  occurrences := by
    rw [value]
    cases e.placeholder.body <;> rfl
  malformed := by
    rw [field?_kind, Placeholder.isMalformed]
    cases e.placeholder.body <;> simp [Value.ofString]
  error := by
    intro message
    rw [field?_error]
    cases e.placeholder.body <;> simp [eq_comm]
  lookup := by
    rw [field?_kind]
    cases e.placeholder.body <;> simp [Value.ofString]
  file := by
    rw [field?_kind]
    cases e.placeholder.body <;> simp [Value.ofString]
  registered := by
    intro b
    rw [field?_registered]
    cases e.placeholder.body <;> simp

/-- The line of an entry tells what it should. -/
theorem toldBy_line : e.ToldBy e.line := by
  have hremark : e.Remark e.detail := by
    rw [detail]
    split
    case h_1 reason hbody => exact .malformed hbody
    case h_2 x hbody =>
      split
      case isTrue hregistered => exact .registered hbody hregistered
      case isFalse hregistered => exact .unregistered hbody (Bool.eq_false_iff.2 hregistered)
    case h_3 path hbody => exact .file hbody
  refine ⟨e.detail, hremark, ?_⟩
  rw [line, mark]
  cases e.placeholder.isMalformed <;> simp

end Fields

end Stencil.CommandLine.CheckEntry
