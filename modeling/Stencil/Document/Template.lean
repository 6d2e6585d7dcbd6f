import Stencil.Document.Writer
import Stencil.Resolve.Compile

/-!
# Compiling template files

A template is read from its file and compiled, and the document is written under a name that is
given or taken from the template's file. Nothing is written unless the template can be read.
-/

namespace Stencil

/-- The message of an output error and the reason in it. -/
def OutputError.messages : OutputError → List Text
  | createDirectory dir e => [(createDirectory dir e).message, e.message]
  | write path fault => [(write path fault).message, fault.message]

/-- A reason for which a template file cannot be compiled. -/
inductive CompileError
  | unreadable (template : Path) (error : FileError)
  | output (error : OutputError)
  deriving DecidableEq, Repr

namespace CompileError

/-- The text that a user is shown. -/
def message : CompileError → Text
  | unreadable template e =>
    "Failed to read template ".toList ++ template.text ++ ": ".toList ++ e.message
  | output e => "Output error: ".toList ++ e.message

/-- The message with the reasons behind it. -/
def messages : CompileError → List Text
  | unreadable template e => [(unreadable template e).message, e.message]
  | output e => (output e).message :: e.messages

end CompileError

/-- The name of a document: the stem of the template's file name. -/
def documentName (template : Path) : Text :=
  match template.stem? with
  | some (c :: stem) => c :: stem
  | _ => "prompt".toList

namespace Resolver

variable (r : Resolver) (world : World) (calls : Calls)

/-- Compiles a template file. There is no result if the compile has no end. -/
def compileTemplate (template : Path) : Option (Except CompileError Compilation) × Calls :=
  match world.files.readText template with
  | .error e => (some (.error (.unreadable template e)), calls)
  | .ok text =>
    let (compilation, calls) := r.compile world calls text
    (compilation.map .ok, calls)

/-- Compiles a template file and writes the document. Returns the path of the document, and the
files as they are then. -/
def compileFile (settings : OutputSettings) (template : Path) (name : Option Text) :
    Option (Except CompileError (Compilation × Path)) × Calls × FileSystem :=
  match r.compileTemplate world calls template with
  | (none, calls) => (none, calls, world.files)
  | (some (.error e), calls) => (some (.error e), calls, world.files)
  | (some (.ok compilation), calls) =>
    let document : Document := ⟨settings, name.getD (documentName template), compilation.output⟩
    match document.write world.files with
    | (.ok path, files) => (some (.ok (compilation, path)), calls, files)
    | (.error e, files) => (some (.error (.output e)), calls, files)

end Resolver

end Stencil
