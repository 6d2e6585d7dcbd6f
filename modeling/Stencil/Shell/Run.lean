import Stencil.Shell.Script
import Stencil.Text.Utf8
import Stencil.World

/-!
# Running scripts

A script runs against a world that it only reads. Its commands are the builtins `echo`, `printf`,
`true`, `false`, `:`, `exit`, `kill`, `read`, `test` and `[`; its standard input is empty. The
outcome is what it has written and how it has ended.
-/

namespace Stencil.Shell

/-- How a script ends. -/
inductive Ending
  | exit (status : Nat)
  | signal (number : Nat)
  deriving DecidableEq, Repr

/-- A script that is running: the bytes written to its two outputs, the last ones first, its
variables, the status of the last command, and how it has ended if it has. -/
structure Process where
  world : World
  out : List UInt8 := []
  err : List UInt8 := []
  env : Environment
  status : Nat := 0
  ending : Option Ending := none

/-- What a script has written and how it has ended. -/
structure Outcome where
  out : List UInt8
  err : List UInt8
  ending : Ending

/-! ## Escapes and formats -/

/-- The value of an octal digit. -/
def octal? (c : Char) : Option Nat :=
  if '0' ≤ c ∧ c ≤ '7' then some (c.toNat - '0'.toNat) else none

/-- The byte of up to `digits` octal digits, added to `value`, and what follows them. -/
def octalByte : (digits value : Nat) → Text → UInt8 × Text
  | digits + 1, value, c :: s =>
    match octal? c with
    | some d => octalByte digits (value * 8 + d) s
    | none => (value.toUInt8, c :: s)
  | _, value, s => (value.toUInt8, s)

/-- The byte that a letter behind a backslash stands for. -/
def escape? (c : Char) : Option UInt8 :=
  if c = 'a' then some 7
  else if c = 'b' then some 8
  else if c = 't' then some 9
  else if c = 'n' then some 10
  else if c = 'v' then some 11
  else if c = 'f' then some 12
  else if c = 'r' then some 13
  else if c = '\\' then some 92
  else none

/-- Writes a text in which backslashes begin escapes. In an argument an octal number begins with a
zero. The number bounds the steps. -/
def escaped (isArgument : Bool) : Nat → Text → List UInt8
  | _, [] => []
  | 0, _ => []
  | bound + 1, '\\' :: c :: s =>
    match escape? c with
    | some b => b :: escaped isArgument bound s
    | none =>
      if isArgument && c = '0' then
        let (b, s) := octalByte 3 0 s
        b :: escaped isArgument bound s
      else if !isArgument && (octal? c).isSome then
        let (b, s) := octalByte 3 0 (c :: s)
        b :: escaped isArgument bound s
      else 92 :: String.utf8EncodeChar c ++ escaped isArgument bound s
  | bound + 1, c :: s => String.utf8EncodeChar c ++ escaped isArgument bound s

/-- Writes a format once and returns what is left of the arguments. The number bounds the steps. -/
def formatOnce : Nat → Text → List Text → List UInt8 × List Text
  | _, [], args => ([], args)
  | 0, _, args => ([], args)
  | bound + 1, '%' :: '%' :: s, args =>
    let (bytes, args) := formatOnce bound s args
    (37 :: bytes, args)
  | bound + 1, '%' :: c :: s, args =>
    let arg := args.headD []
    let shown :=
      if c = 'd' then Utf8.encode (if arg.isEmpty then ['0'] else arg)
      else if c = 'c' then Utf8.encode (arg.take 1)
      else if c = 'b' then escaped true arg.length arg
      else Utf8.encode arg
    let (bytes, args) := formatOnce bound s (args.drop 1)
    (shown ++ bytes, args)
  | bound + 1, s, args =>
    let stretch := s.takeWhile (· ≠ '%')
    if stretch.isEmpty then ([37], args)
    else
      let (bytes, args) := formatOnce bound (s.dropWhile (· ≠ '%')) args
      (escaped false stretch.length stretch ++ bytes, args)

/-- Writes a format as often as it takes to use up the arguments. The number bounds the rounds. -/
def format : Nat → Text → List Text → List UInt8
  | 0, _, _ => []
  | rounds + 1, pattern, args =>
    let (bytes, left) := formatOnce (pattern.length + 1) pattern args
    if left.isEmpty || left.length = args.length then bytes else bytes ++ format rounds pattern left

/-! ## Signals and conditions -/

/-- The signals that can be named. -/
def signals : List (String × Nat) :=
  [("HUP", 1), ("INT", 2), ("QUIT", 3), ("ABRT", 6), ("KILL", 9), ("USR1", 10), ("SEGV", 11),
    ("USR2", 12), ("PIPE", 13), ("ALRM", 14), ("TERM", 15)]

/-- The number of a signal, given by number or name. -/
def signal? (s : Text) : Option Nat :=
  match (String.ofList s).toNat? with
  | some n => some n
  | none => signals.lookup (String.ofList s)

/-- The status of a condition; `none` if it is none. -/
def condition? (files : FileSystem) : List Text → Option Bool
  | [] => some false
  | ['!'] :: rest => (condition? files rest).map (!·)
  | [word] => some (!word.isEmpty)
  | [operator, word] =>
    match String.ofList operator with
    | "-n" => some (!word.isEmpty)
    | "-z" => some word.isEmpty
    | "-e" => some (files.isThere ⟨word⟩)
    | "-d" => some (files.isDirectory ⟨word⟩)
    | "-f" => some (match files.stat ⟨word⟩ with | .ok (.file _) => true | _ => false)
    | "-s" => some (match files.read ⟨word⟩ with | .ok bytes => !bytes.isEmpty | _ => false)
    | _ => none
  | [left, operator, right] =>
    match String.ofList operator with
    | "=" => some (left = right)
    | "!=" => some (left ≠ right)
    | _ => none
  | _ => none

/-! ## Processes -/

namespace Process

/-- The number of the process, as `$$` shows it. -/
def number : Text := "4242".toList

/-- Writes bytes to one of the outputs. -/
def write (p : Process) (toError : Bool) (bytes : List UInt8) : Process :=
  if toError then { p with err := bytes.reverse ++ p.err }
  else { p with out := bytes.reverse ++ p.out }

/-- The text of a stretch. -/
def expand (p : Process) : Stretch → Text
  | .plain s => s
  | .variable name => (p.env.get? name).getD []
  | .process => number
  | .status => Text.ofNat p.status

/-- The fields of a word. Blanks in variables that are not quoted separate fields. -/
def fields (p : Process) (w : Word) : List Text :=
  go [] none w
where
  /-- Adds the stretches of a word to the fields so far and the field that is being read. -/
  go (done : List Text) (field : Option Text) : Word → List Text
    | [] => (field.toList ++ done).reverse
    | (quoted, x) :: rest =>
      let s := p.expand x
      match x, quoted with
      | .plain _, _ | _, true => go done (some (field.getD [] ++ s)) rest
      | _, false =>
        match Text.splitOn ' ' (s.map fun c => if c = '\n' ∨ c = '\t' then ' ' else c) with
        | [] => go done field rest
        | [only] =>
          go done (if only.isEmpty then field else some (field.getD [] ++ only)) rest
        | first :: more =>
          let first := if first.isEmpty then field else some (field.getD [] ++ first)
          let middle := more.dropLast.filter (!·.isEmpty)
          let last := more.getLast?.getD []
          let unfinished := if last.isEmpty then none else some last
          go (middle.reverse ++ first.toList ++ done) unfinished rest

/-- Ends with a status, after a message if there is one. -/
def fail (p : Process) (status : Nat) (message : Text) : Process :=
  { p.write true (Utf8.encode ("sh: 1: ".toList ++ message ++ ['\n'])) with status }

/-- Runs a builtin. -/
def builtin (p : Process) (toError : Bool) (name : Text) (args : List Text) : Process :=
  match String.ofList name with
  | "echo" =>
    let line := Text.join [' '] args
    { p.write toError (escaped true (line.length + 1) line ++ [10]) with status := 0 }
  | "printf" =>
    match args with
    | [] => p.fail 2 "printf: usage: printf format [arg ...]".toList
    | pattern :: args =>
      { p.write toError (format (args.length + 1) pattern args) with status := 0 }
  | "true" | ":" => { p with status := 0 }
  | "false" => { p with status := 1 }
  | "exit" =>
    let status := (args.head?.bind fun s => (String.ofList s).toNat?).getD p.status
    { p with ending := some (.exit (status % 256)) }
  | "kill" =>
    let goal := args.getLast?
    let signal :=
      match args with
      | ('-' :: name) :: _ :: _ => signal? name
      | _ => some 15
    match signal with
    | some n =>
      if goal = some number then { p with ending := some (.signal n) } else { p with status := 1 }
    | none => { p with status := 1 }
  | "read" =>
    { p with env := args.foldl (fun env name => env.set name (some [])) p.env, status := 1 }
  | "test" => test args
  | "[" =>
    if args.getLast? = some [']'] then test args.dropLast
    else p.fail 2 "[: missing ]".toList
  | _ => p.fail 127 (name ++ ": not found".toList)
where
  /-- Sets the status by a condition. -/
  test (args : List Text) : Process :=
    match condition? p.world.files args with
    | some holds => { p with status := if holds then 0 else 1 }
    | none => p.fail 2 "test: unexpected operator".toList

/-- The name and the value of a word that sets a variable. -/
def assignment? (word : Text) : Option (Text × Text) :=
  match Text.splitFirst? '=' word with
  | some (name, value) =>
    if !name.isEmpty && name.all isNameChar && !name.head?.any Char.isDigit then some (name, value)
    else none
  | none => none

/-- Runs a command unless the script has ended or the condition does not hold. -/
def step (p : Process) (c : Command) : Process :=
  let runs :=
    p.ending.isNone &&
      match c.condition with
      | .always => true
      | .afterSuccess => p.status = 0
      | .afterFailure => p.status ≠ 0
  if !runs then p
  else
    match c.words.flatMap p.fields with
    | [] => { p with status := 0 }
    | name :: args =>
      match assignment? name, args with
      | some (setName, value), [] =>
        { p with env := p.env.set setName (some value), status := 0 }
      | _, _ => p.builtin c.toError name args

end Process

/-! ## Scripts -/

/-- Runs a script. -/
def run (world : World) (script : Text) : Outcome :=
  match parse? script with
  | none =>
    ⟨[], Utf8.encode "sh: 1: Syntax error: Unterminated quoted string\n".toList, .exit 2⟩
  | some commands =>
    let p := commands.foldl Process.step { world, env := world.env }
    ⟨p.out.reverse, p.err.reverse, p.ending.getD (.exit p.status)⟩

/-- How the end of a process is shown. -/
def Ending.text : Ending → Text
  | .exit status => "exit status: ".toList ++ Text.ofNat status
  | .signal n =>
    let name :=
      match signals.find? (·.2 = n) with
      | some (name, _) => " (SIG".toList ++ name.toList ++ [')']
      | none => []
    "signal: ".toList ++ Text.ofNat n ++ name

end Stencil.Shell
