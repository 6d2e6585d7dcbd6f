import Stencil.Yaml.Scanner

/-!
# Parsing YAML

A document is a tree of scalars, sequences and mappings in which an anchor gives a node a name and
an alias stands for the node with that name. Anchors are numbered in the order in which they are
written; an alias holds the number, so that a name may be given again.

Every reader takes the tokens that are left, returns `none` where they are not well-formed, and
takes a number that bounds its steps.
-/

namespace Stencil.Yaml

/-- A node of a document. -/
inductive Node
  | scalar (text : Text) (style : Style) (tag : Option (List UInt8))
  | sequence (items : List Node)
  | mapping (items : List (Node × Node))
  /-- The node with an anchor. -/
  | reference (anchor : Nat)

/-- What stands where no node is written. -/
def Node.nothing : Node :=
  .scalar [] .plain none

/-! ## Anchors -/

/-- The anchors so far. -/
structure Anchors where
  /-- The names, the last one first. The first one has the number 0. -/
  names : List Text := []
  /-- The nodes that are complete, by number. -/
  nodes : List (Nat × Node) := []

namespace Anchors

/-- Gives a name the next number. -/
def add (a : Anchors) (name : Text) : Nat × Anchors :=
  (a.names.length, { a with names := name :: a.names })

/-- The number of a name. -/
def number? (a : Anchors) (name : Text) : Option Nat :=
  let later := a.names.idxOf name
  if later < a.names.length then some (a.names.length - 1 - later) else none

/-- Completes the node with a number. -/
def complete (a : Anchors) (number : Option Nat) (n : Node) : Anchors :=
  match number with
  | some k => { a with nodes := (k, n) :: a.nodes }
  | none => a

end Anchors

/-! ## Reading tokens -/

/-- What is left of the tokens, and the anchors so far. -/
structure Reader where
  tokens : List Token
  anchors : Anchors := {}

namespace Reader

/-- The next token. -/
def peek? (r : Reader) : Option Token :=
  r.tokens.head?

/-- The reader behind the next token. -/
def skip (r : Reader) : Reader :=
  { r with tokens := r.tokens.drop 1 }

/-- Passes over the next token if it is the given one. -/
def skipIf (r : Reader) (t : Token) : Reader :=
  if r.peek? = some t then r.skip else r

/-- Whether the next token is one of the given ones. -/
def sees (r : Reader) (ts : List Token) : Bool :=
  r.peek?.any (· ∈ ts)

/-- Reads an anchor. -/
def anchor (r : Reader) : Option Nat × Reader :=
  match r.tokens with
  | .anchor name :: rest =>
    let (number, anchors) := r.anchors.add name
    (some number, ⟨rest, anchors⟩)
  | _ => (none, r)

/-- Reads a tag. -/
def tag (r : Reader) : Option (Text × List UInt8) × Reader :=
  match r.tokens with
  | .tag handle suffix :: rest => (some (handle, suffix), { r with tokens := rest })
  | _ => (none, r)

end Reader

/-! ## Tags -/

/-- What handles of tags stand for. -/
abbrev Handles := List (Text × List UInt8)

/-- What handles stand for unless a directive says otherwise. -/
def usualHandles : Handles :=
  [(['!'], "!".toUTF8.toList), (['!', '!'], "tag:yaml.org,2002:".toUTF8.toList)]

/-- The full form of a tag. A tag without a handle is in full form. -/
def fullTag? (handles : Handles) : Option (Text × List UInt8) → Option (Option (List UInt8))
  | none => some none
  | some ([], suffix) => some (some suffix)
  | some (handle, suffix) => (handles.lookup handle).map fun meaning => some (meaning ++ suffix)

/-! ## Nodes -/

/-- The tokens of a block after which nothing is written for a key or value. -/
def blockStops : List Token :=
  [.key, .value, .blockEnd]

mutual

/-- Reads a node. In a block, block collections may begin; where `indentless` says so, a sequence
may begin without indentation. -/
def node (handles : Handles) (inBlock indentless : Bool) : Nat → Reader → Option (Node × Reader)
  | 0, _ => none
  | bound + 1, r =>
    match r.tokens with
    | .reference name :: rest =>
      (r.anchors.number? name).map fun k => (.reference k, { r with tokens := rest })
    | _ => do
      let (anchor, r) := r.anchor
      let (tag, r) := r.tag
      -- The anchor may also stand behind the tag.
      let (anchor, r) :=
        match anchor with
        | some k => (some k, r)
        | none => r.anchor
      let isMarked := anchor.isSome || tag.isSome
      let tag ← fullTag? handles tag
      let (n, r) ←
        match r.tokens with
        -- Nothing may be written where an anchor or a tag is.
        | .blockEntry :: _ =>
          if indentless then indentlessItems handles bound [] r
          else if isMarked then some (.scalar [] .plain tag, r)
          else none
        | .scalar s style :: _ => some (.scalar s style tag, r.skip)
        | .flowSequenceStart :: _ => flowItems handles bound true [] r.skip
        | .flowMappingStart :: _ => flowFields handles bound true [] r.skip
        | t :: _ =>
          if inBlock && t = .blockSequenceStart then blockItems handles bound [] r.skip
          else if inBlock && t = .blockMappingStart then blockFields handles bound [] r.skip
          else if isMarked then some (.scalar [] .plain tag, r)
          else none
        | [] => none
      return (n, { r with anchors := r.anchors.complete anchor n })

/-- Reads a node, or nothing where one of the given tokens follows. -/
def nodeUnless (handles : Handles) (inBlock indentless : Bool) (stops : List Token) :
    Nat → Reader → Option (Node × Reader)
  | 0, _ => none
  | bound + 1, r =>
    if r.sees stops then some (.nothing, r) else node handles inBlock indentless bound r

/-- Reads the rest of a block sequence. `done` holds the items so far, the last one first. -/
def blockItems (handles : Handles) : Nat → List Node → Reader → Option (Node × Reader)
  | 0, _, _ => none
  | bound + 1, done, r =>
    match r.peek? with
    | some .blockEntry => do
      let (n, r) ← nodeUnless handles true false [.blockEntry, .blockEnd] bound r.skip
      blockItems handles bound (n :: done) r
    | some .blockEnd => some (.sequence done.reverse, r.skip)
    | _ => none

/-- Reads the rest of a sequence without indentation. -/
def indentlessItems (handles : Handles) : Nat → List Node → Reader → Option (Node × Reader)
  | 0, _, _ => none
  | bound + 1, done, r =>
    match r.peek? with
    | some .blockEntry => do
      let (n, r) ← nodeUnless handles true false (.blockEntry :: blockStops) bound r.skip
      indentlessItems handles bound (n :: done) r
    | _ => some (.sequence done.reverse, r)

/-- Reads the rest of a block mapping. -/
def blockFields (handles : Handles) : Nat → List (Node × Node) → Reader → Option (Node × Reader)
  | 0, _, _ => none
  | bound + 1, done, r =>
    match r.peek? with
    | some .key => do
      let (key, r) ← nodeUnless handles true true blockStops bound r.skip
      let (value, r) ←
        if r.sees [.value] then nodeUnless handles true true blockStops bound r.skip
        else some (.nothing, r)
      blockFields handles bound ((key, value) :: done) r
    | some .blockEnd => some (.mapping done.reverse, r.skip)
    | _ => none

/-- Reads the rest of a flow sequence. An item may be a mapping with a single key. -/
def flowItems (handles : Handles) : Nat → Bool → List Node → Reader → Option (Node × Reader)
  | 0, _, _, _ => none
  | bound + 1, first, done, r =>
    if r.sees [.flowSequenceEnd] then some (.sequence done.reverse, r.skip)
    else if !first && !r.sees [.flowEntry] then none
    else do
      let r := if first then r else r.skip
      let stops : List Token := [.flowEntry, .flowSequenceEnd]
      if r.sees [.key] then
        let r := r.skip
        let (key, r) ←
          if r.sees (.value :: stops) then some (.nothing, r.skip)
          else node handles false false bound r
        let (value, r) ←
          if r.sees [.value] then nodeUnless handles false false stops bound r.skip
          else some (.nothing, r)
        flowItems handles bound false (.mapping [(key, value)] :: done) r
      else if r.sees [.flowSequenceEnd] then some (.sequence done.reverse, r.skip)
      else
        let (n, r) ← node handles false false bound r
        flowItems handles bound false (n :: done) r

/-- Reads the rest of a flow mapping. -/
def flowFields (handles : Handles) :
    Nat → Bool → List (Node × Node) → Reader → Option (Node × Reader)
  | 0, _, _, _ => none
  | bound + 1, first, done, r =>
    if r.sees [.flowMappingEnd] then some (.mapping done.reverse, r.skip)
    else if !first && !r.sees [.flowEntry] then none
    else do
      let r := if first then r else r.skip
      let stops : List Token := [.flowEntry, .flowMappingEnd]
      if r.sees [.key] then
        let (key, r) ← nodeUnless handles false false (.value :: stops) bound r.skip
        let (value, r) ←
          if r.sees [.value] then nodeUnless handles false false stops bound r.skip
          else some (.nothing, r)
        flowFields handles bound false ((key, value) :: done) r
      else if r.sees [.flowMappingEnd] then some (.mapping done.reverse, r.skip)
      else
        let (key, r) ← node handles false false bound r
        flowFields handles bound false ((key, .nothing) :: done) r

end

/-! ## Documents -/

/-- Reads the directives before a document, each at most once, and returns what handles stand for.
-/
def directives : Bool → Handles → List Token → Option (Handles × List Token)
  | seen, handles, .version major minor :: rest =>
    if seen || major ≠ 1 || (minor ≠ 1 && minor ≠ 2) then none else directives true handles rest
  | seen, handles, .tagHandle handle meaning :: rest =>
    if handles.any (·.1 = handle) then none
    else directives seen (handles ++ [(handle, meaning)]) rest
  | _, handles, rest => some (handles, rest)

/-- A document: its root, and the nodes with anchors by number. A text that holds no document has no
root. -/
structure Tree where
  root : Option Node
  anchored : List (Nat × Node)

/-- Parses a text that holds one document or none. -/
def parse? (s : Text) : Option Tree := do
  let tokens ← scan s
  let (handles, rest) ← directives false [] tokens
  let handles := handles ++ usualHandles
  let bound := 4 * tokens.length + 4
  let (root, r) ←
    match rest with
    | .documentStart :: rest =>
      let r : Reader := { tokens := rest }
      let ends (t : Token) : Bool :=
        match t with
        | .version .. | .tagHandle .. | .documentStart | .documentEnd | .streamEnd => true
        | _ => false
      if r.peek?.any ends then some (some .nothing, r)
      else (node handles true false bound r).map fun (n, r) => (some n, r)
    -- Directives have to be followed by the mark of a document's start.
    | [.streamEnd] => if rest.length = tokens.length then some (none, ⟨rest, {}⟩) else none
    | rest =>
      if rest.length = tokens.length then
        (node handles true false bound { tokens := rest }).map fun (n, r) => (some n, r)
      else none
  if r.tokens.dropWhile (· = .documentEnd) = [.streamEnd] then return ⟨root, r.anchors.nodes⟩
  else none

end Stencil.Yaml
