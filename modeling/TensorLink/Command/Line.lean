import TensorLink.Register.Performance

/-!
# Command lines

The program is called as

    edgetpu [-v] inspect PACKAGE
    edgetpu [-v] simulate [--mode MODE]
    edgetpu [-v] enumerate
    edgetpu [-v] temperature [--mode MODE]
    edgetpu [-v] invoke PACKAGE INPUT [--mode MODE] [--output FILE]
    edgetpu [-v] dfu FIRMWARE

Options and operands of a command come in any order, and `-v` or `--verbose` may also stand among
them. The value of an option is the next word or follows an equals sign; an option may be given
once. After `--` every word is an operand. No operand or value may be empty, and a word that starts
with a hyphen is an option unless it is the hyphen alone.

The words are taken one after the other, and the first that does not fit decides.

Reference: `edgetpu-cli`; SPEC_FULL 10.5.
-/

namespace TensorLink.Command

/-- The commands by name. -/
inductive Verb where
  | inspect
  | simulate
  | enumerate
  | temperature
  | invoke
  | dfu
  deriving DecidableEq, Repr

namespace Verb

/-- The name of a command. -/
def name : Verb → String
  | inspect => "inspect"
  | simulate => "simulate"
  | enumerate => "enumerate"
  | temperature => "temperature"
  | invoke => "invoke"
  | dfu => "dfu"

/-- Every command. -/
def all : List Verb := [inspect, simulate, enumerate, temperature, invoke, dfu]

/-- How many operands a command takes. -/
def operands : Verb → Nat
  | inspect | dfu => 1
  | invoke => 2
  | simulate | enumerate | temperature => 0

/-- Whether a command takes a performance mode. -/
def takesMode : Verb → Bool
  | simulate | temperature | invoke => true
  | inspect | enumerate | dfu => false

/-- Whether a command takes a file for its output. -/
def takesOutput : Verb → Bool
  | invoke => true
  | _ => false

end Verb

/-- An option that takes a value. -/
inductive Setting where
  | mode
  | output
  deriving DecidableEq, Repr

/-- What a call asks for. -/
structure Call where
  verb : Verb
  operands : List String
  mode : PerformanceMode
  output : Option String
  verbose : Bool
  deriving DecidableEq, Repr

/-- What else a command line may come to. -/
inductive Stop where
  /-- It is not one of the forms above. -/
  | usage
  | help
  | version
  deriving DecidableEq, Repr

/-- What the words so far have said. -/
structure Partial where
  verb : Option Verb := none
  operands : List String := []
  mode : Option PerformanceMode := none
  output : Option String := none
  /-- The option whose value is the next word. -/
  awaiting : Option Setting := none
  /-- Whether the remaining words are operands. -/
  literal : Bool := false
  /-- Whether verbosity was asked for before the command. -/
  verboseBefore : Bool := false
  /-- Whether verbosity was asked for after the command. -/
  verboseAfter : Bool := false
  deriving DecidableEq, Repr

namespace Partial

/-- The mode in which devices are opened unless another is given. -/
def defaultMode : PerformanceMode := .high

/-- Whether a word is an option by its form. -/
def looksLikeOption (word : String) : Bool :=
  match word.toList with
  | '-' :: _ :: _ => true
  | _ => false

/-- Asks for verbosity, which each of the two places for it may do once. -/
def setVerbose (line : Partial) : Except Stop Partial :=
  match line.verb with
  | none =>
    if line.verboseBefore then .error .usage else .ok { line with verboseBefore := true }
  | some _ => if line.verboseAfter then .error .usage else .ok { line with verboseAfter := true }

/-- Takes the value of an option. -/
def setValue (line : Partial) (setting : Setting) (value : String) : Except Stop Partial :=
  let line := { line with awaiting := none }
  match setting with
  | .mode =>
    match PerformanceMode.parse value with
    | .error _ => .error .usage
    | .ok mode =>
      if line.mode.isSome then .error .usage else .ok { line with mode := some mode }
  | .output =>
    if value.isEmpty || line.output.isSome then .error .usage
    else .ok { line with output := some value }

/-- The option with a given name, if the command takes it. -/
def setting? (line : Partial) (name : String) : Option Setting :=
  match line.verb with
  | none => none
  | some verb =>
    if name = "mode" && verb.takesMode then some .mode
    else if name = "output" && verb.takesOutput then some .output
    else none

/-- Takes an operand. -/
def addOperand (line : Partial) (word : String) : Except Stop Partial :=
  match line.verb with
  | none => .error .usage
  | some verb =>
    if word.isEmpty || verb.operands ≤ line.operands.length then .error .usage
    else .ok { line with operands := line.operands ++ [word] }

/-- Takes a word after two hyphens: the name of an option and, after an equals sign, its value. -/
def long (line : Partial) (text : List Char) : Except Stop Partial :=
  let name := String.ofList (text.takeWhile (· != '='))
  match text.dropWhile (· != '=') with
  | [] =>
    if name = "help" then .error .help
    else if name = "version" && line.verb.isNone then .error .version
    else if name = "verbose" then line.setVerbose
    else
      match line.setting? name with
      | some setting => .ok { line with awaiting := some setting }
      | none => .error .usage
  | _ :: value =>
    match line.setting? name with
    | some setting => line.setValue setting (String.ofList value)
    | none => .error .usage

/-- Takes the letters after one hyphen, each an option without a value. -/
def short (line : Partial) : List Char → Except Stop Partial
  | [] => .ok line
  | letter :: rest =>
    if letter = 'h' then .error .help
    else if letter = 'V' && line.verb.isNone then .error .version
    else if letter = 'v' then
      match line.setVerbose with
      | .ok line => line.short rest
      | .error stop => .error stop
    else .error .usage

/-- Takes a word that is no option: the command, then its operands. -/
def word (line : Partial) (text : String) : Except Stop Partial :=
  match line.verb with
  | some _ => line.addOperand text
  | none =>
    if text = "help" then .error .help
    else
      match Verb.all.find? (·.name = text) with
      | some verb => .ok { line with verb := some verb }
      | none => .error .usage

/-- Takes the next word. -/
def step (line : Partial) (next : String) : Except Stop Partial :=
  if line.literal then line.addOperand next
  else
    match line.awaiting with
    | some setting =>
      if looksLikeOption next then .error .usage else line.setValue setting next
    | none =>
      match next.toList with
      | ['-', '-'] => .ok { line with literal := true }
      | '-' :: '-' :: text => line.long text
      | '-' :: letter :: letters => line.short (letter :: letters)
      | _ => line.word next

/-- What the words have asked for, when there are no more. -/
def finish (line : Partial) : Except Stop Call :=
  match line.verb with
  | none => .error .usage
  | some verb =>
    if line.awaiting.isSome || line.operands.length ≠ verb.operands then .error .usage
    else
      .ok { verb, operands := line.operands, mode := line.mode.getD defaultMode,
            output := line.output, verbose := line.verboseBefore || line.verboseAfter }

end Partial

/-- What a command line asks for. -/
def parse (words : List String) : Except Stop Call := do
  (← words.foldlM Partial.step {}).finish

end TensorLink.Command
