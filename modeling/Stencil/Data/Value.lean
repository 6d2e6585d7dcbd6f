import Stencil.Text.Basic

/-!
# Structured values

A value is nothing, a truth value, a whole number, a text, a list or a record. The fields of a
record are in the order of their keys, each key once; `record` puts given fields into this form.
-/

namespace Stencil

/-- A structured value. -/
inductive Value
  | null
  | bool (b : Bool)
  | int (n : Int)
  | text (s : Text)
  | list (items : List Value)
  | fields (items : List (Text × Value))

namespace Value

/-- Sets a field, in its place by key order. -/
def setField (key : Text) (v : Value) : List (Text × Value) → List (Text × Value)
  | [] => [(key, v)]
  | (other, w) :: rest =>
    if other = key then (key, v) :: rest
    else if Text.le key other then (key, v) :: (other, w) :: rest
    else (other, w) :: setField key v rest

/-- A record with the given fields; of several with one key, the last counts. -/
def record (items : List (Text × Value)) : Value :=
  .fields (items.foldl (fun done (key, v) => setField key v done) [])

/-- A text that is written in the program. -/
def ofString (s : String) : Value :=
  .text s.toList

/-- A text or nothing. -/
def ofText? : Option Text → Value
  | none => .null
  | some s => .text s

/-- A natural number. -/
def ofNat (n : Nat) : Value :=
  .int n

/-- The field of a record with a key. -/
def field? (key : Text) : Value → Option Value
  | .fields items => items.lookup key
  | _ => none

/-- The text that a value is. -/
def text? : Value → Option Text
  | .text s => some s
  | _ => none

end Value

end Stencil
