import Stencil.Data.Bindings
import Stencil.Yaml.Node

/-!
# Reading values out of YAML

The values that a node may stand for. A text is any scalar, however it is written; a truth value or
a number has to be plain, or a literal block with the tag of its type. Where a mapping is expected,
nothing stands for the empty one.
-/

namespace Stencil.Yaml

/-! ## Words -/

/-- The tag of a type of values. -/
def typeTag (name : String) : List UInt8 :=
  ("tag:yaml.org,2002:" ++ name).toUTF8.toList

/-- The words for nothing. -/
def nulls : List Text :=
  ["null".toList, "Null".toList, "NULL".toList, "~".toList]

/-- The truth value that a word stands for. -/
def boolOf? (s : Text) : Option Bool :=
  match String.ofList s with
  | "true" | "True" | "TRUE" => some true
  | "false" | "False" | "FALSE" => some false
  | _ => none

/-- The value of a digit in a base of at most 16. -/
def digit? (base : Nat) (c : Char) : Option Nat :=
  (hexDigit? c).filter (· < base)

/-- A number of 64 bits in a base. A plus sign may stand before it. -/
def inBase? (base : Nat) (s : Text) : Option Nat := do
  let ds ← (if s.head? = some '+' then s.drop 1 else s).mapM (digit? base)
  let n := ds.foldl (fun n d => n * base + d) 0
  if ds.isEmpty ∨ UInt64.size ≤ n then none else some n

/-- A number after a mark of its base, which no sign may follow. -/
def marked? (mark : String) (base : Nat) (s : Text) : Option Nat := do
  let s ← Text.dropMark? mark.toList s
  if s.head?.any (fun c => c = '+' ∨ c = '-') then none else inBase? base s

/-- The number of 64 bits without a sign that a word stands for. A number in decimal does not begin
with a zero unless it is one. -/
def naturalOf? (s : Text) : Option Nat :=
  let unsigned := if s.head? = some '+' then s.drop 1 else s
  (marked? "0x" 16 unsigned <|> marked? "0o" 8 unsigned) <|> marked? "0b" 2 unsigned <|>
    if unsigned.head?.any (fun c => c = '+' ∨ c = '-') then none
    else if unsigned.head? = some '0' ∧ 1 < unsigned.length then none
    else inBase? 10 unsigned

namespace Tree

variable (t : Tree)

/-! ## Scalars -/

/-- The node itself, or the one that an alias stands for. -/
def resolve (n : Node) : Option Node :=
  match n with
  | .reference k => t.anchored.lookup k
  | n => some n

/-- The text that a node stands for. -/
def text? (n : Node) : Option Text :=
  match t.resolve n with
  | some (.scalar s _ _) => some s
  | _ => none

/-- The word that may stand for a value of a type: a plain scalar, or a literal block with the tag
of the type. -/
def word? (type : String) (n : Node) : Option Text :=
  match t.resolve n with
  | some (.scalar s style tag) =>
    if style = .plain ∨ (style = .literal ∧ tag = some (typeTag type)) then some s else none
  | _ => none

/-- The truth value that a node stands for. -/
def bool? (n : Node) : Option Bool :=
  (t.word? "bool" n).bind boolOf?

/-- The natural number that a node stands for. -/
def natural? (n : Node) : Option Nat :=
  (t.word? "int" n).bind naturalOf?

/-- Whether a node stands for nothing; `none` if it only claims to. -/
def isNull? (n : Node) : Option Bool :=
  match t.resolve n with
  | some (.scalar s .plain none) => some (s.isEmpty || nulls.contains s)
  | some (.scalar s .plain (some tag)) =>
    if tag = typeTag "null" then if nulls.contains s then some true else none else some false
  | _ => some false

/-- Reads a value that may be missing. -/
def optional? {α : Type} (read : Node → Option α) (n : Node) : Option (Option α) := do
  if ← t.isNull? n then return none
  else
    let a ← read n
    return some a

/-! ## Mappings -/

/-- The keys and values of a mapping. -/
def items? (n : Node) : Option (List (Node × Node)) :=
  match t.resolve n with
  | some (.mapping items) => some items
  | some (.scalar [] .plain _) => some []
  | _ => none

/-- The keys and values of a mapping whose keys are texts. -/
def fields? (n : Node) : Option (List (Text × Node)) := do
  let items ← t.items? n
  items.mapM fun (key, value) => (t.text? key).map (·, value)

/-- Reads the value of a key, which may be missing but not be given twice. -/
def field? {α : Type} (read : Node → Option α) (fields : List (Text × Node)) (key : String)
    (default : α) : Option α :=
  match fields.filter (·.1 = key.toList) with
  | [] => some default
  | [(_, value)] => read value
  | _ => none

/-- The bindings of texts that a mapping stands for. -/
def bindings? (n : Node) : Option Bindings := do
  let fields ← t.fields? n
  let pairs ← fields.mapM fun (key, value) => (t.text? value).map (key, ·)
  return Bindings.ofPairs pairs

end Tree

end Stencil.Yaml
