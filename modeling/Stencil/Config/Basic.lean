import Stencil.Document.Settings
import Stencil.Yaml.Decode

/-!
# Configurations

What a configuration file sets, each setting with its usual value. Keys that are not known are
passed over; a known key that is given twice is an error.
-/

namespace Stencil

/-- How much is logged, and in which form. -/
structure Logging where
  level : Text := "info".toList
  format : Text := "pretty".toList
  deriving DecidableEq, Repr

/-- A configuration. -/
structure Config where
  /-- The project root. -/
  root : Path := ⟨['.']⟩
  output : OutputSettings := {}
  /-- The words that are replaced before a template is parsed. -/
  words : Bindings := []
  /-- The values of the type `config`. -/
  values : Bindings := []
  /-- The commands of the type `command`. -/
  commands : Bindings := []
  /-- The number of seconds that a placeholder may take. -/
  timeoutSeconds : Option Nat := none
  logging : Logging := {}
  deriving DecidableEq, Repr

namespace Config

/-- The output settings that a node stands for. -/
def outputOf? (t : Yaml.Tree) (n : Yaml.Node) : Option OutputSettings := do
  let usual : OutputSettings := {}
  let fields ← t.fields? n
  let dir ← Yaml.Tree.field? t.text? fields "dir" usual.dir.text
  let numbered ← Yaml.Tree.field? t.bool? fields "numbered" usual.numbered
  let extension ← Yaml.Tree.field? t.text? fields "extension" usual.givenExtension
  return ⟨⟨dir⟩, numbered, extension⟩

/-- The logging settings that a node stands for. -/
def loggingOf? (t : Yaml.Tree) (n : Yaml.Node) : Option Logging := do
  let usual : Logging := {}
  let fields ← t.fields? n
  let level ← Yaml.Tree.field? t.text? fields "level" usual.level
  let format ← Yaml.Tree.field? t.text? fields "format" usual.format
  return ⟨level, format⟩

/-- The configuration that a tree stands for. A tree without a root sets nothing. -/
def ofTree? (t : Yaml.Tree) : Option Config := do
  let usual : Config := {}
  let fields ← (t.root.elim (some []) t.fields?)
  let root ← Yaml.Tree.field? t.text? fields "project_root" usual.root.text
  let output ← Yaml.Tree.field? (outputOf? t) fields "output" usual.output
  let words ← Yaml.Tree.field? t.bindings? fields "substitutions" usual.words
  let values ← Yaml.Tree.field? t.bindings? fields "variables" usual.values
  let commands ← Yaml.Tree.field? t.bindings? fields "commands" usual.commands
  let timeoutSeconds ←
    Yaml.Tree.field? (t.optional? t.natural?) fields "placeholder_timeout_secs" usual.timeoutSeconds
  let logging ← Yaml.Tree.field? (loggingOf? t) fields "logging" usual.logging
  return { root := ⟨root⟩, output, words, values, commands, timeoutSeconds, logging }

/-- The configuration that a text stands for. -/
def parse? (s : Text) : Option Config :=
  (Yaml.parse? s).bind ofTree?

end Config

end Stencil
