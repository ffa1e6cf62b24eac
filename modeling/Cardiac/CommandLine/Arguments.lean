import Cardiac.Config
import Cardiac.Deck
import Cardiac.Text.Pieces

/-!
# Command line arguments

Arguments are read from left to right. An argument that begins with two hyphens names an option,
one that begins with a single hyphen names options by their letters, and any other is an operand,
as is everything behind `--`. An option's value is attached to it, behind an equals sign or right
after its letter, or is the next argument; that one may begin with a hyphen only where an option
says so. No option and no operand may be given twice, unless it collects its values.
-/
namespace Cardiac.CommandLine

/-- Why no command comes of the arguments. -/
inductive Refusal where
  | usage
  | help
  | version
  deriving DecidableEq, Repr

/-- An option, and what it does to the settings read so far. -/
inductive OptionKind (Settings : Type) where
  | flag (apply : Settings → Except Refusal Settings)
  | valued (hyphens : Bool) (apply : String → Settings → Except Refusal Settings)

structure OptionForm (Settings : Type) where
  name : String
  letter : Option Char
  kind : OptionKind Settings

structure Grammar (Settings : Type) where
  options : List (OptionForm Settings)
  operand : String → Settings → Except Refusal Settings

/-- What an argument that begins with a hyphen comes to. -/
inductive Effect (Settings : Type) where
  | applied (settings : Settings)
  | awaitsValue (hyphens : Bool) (apply : String → Settings → Except Refusal Settings)
    (settings : Settings)

namespace Grammar

variable {Settings : Type}

/-- An option by name, with the value attached to it, if any. -/
def named (grammar : Grammar Settings) (name : String) (value : Option String)
    (settings : Settings) : Except Refusal (Effect Settings) :=
  match grammar.options.find? fun option => option.name = name with
  | none => .error .usage
  | some option =>
    match option.kind, value with
    | .flag apply, none => (apply settings).map .applied
    | .flag _, some _ => .error .usage
    | .valued _ apply, some value => (apply value settings).map .applied
    | .valued hyphens apply, none => .ok (.awaitsValue hyphens apply settings)

/-- Options by their letters. What follows the letter of an option with a value is the value. -/
def lettered (grammar : Grammar Settings) :
    List Char → Settings → Except Refusal (Effect Settings)
  | [], settings => .ok (.applied settings)
  | letter :: rest, settings =>
    match grammar.options.find? fun option => option.letter = some letter with
    | none => .error .usage
    | some option =>
      match option.kind with
      | .flag apply =>
        match apply settings with
        | .ok settings => grammar.lettered rest settings
        | .error refusal => .error refusal
      | .valued hyphens apply =>
        match rest with
        | [] => .ok (.awaitsValue hyphens apply settings)
        | '=' :: value => (apply (String.ofList value) settings).map .applied
        | value => (apply (String.ofList value) settings).map .applied

/-- An argument with a hyphen in front and something behind it. -/
def hyphened (grammar : Grammar Settings) (argument : List Char) (settings : Settings) :
    Except Refusal (Effect Settings) :=
  match argument with
  | '-' :: '-' :: long =>
    let name := String.ofList (long.takeWhile (· ≠ '='))
    match long.dropWhile (· ≠ '=') with
    | [] => grammar.named name none settings
    | _ :: value => grammar.named name (some (String.ofList value)) settings
  | _ :: letters => grammar.lettered letters settings
  | [] => .error .usage

def isHyphened (argument : String) : Bool :=
  argument.toList.head? = some '-' && argument ≠ "-"

def operands (grammar : Grammar Settings) (arguments : List String) (settings : Settings) :
    Except Refusal Settings :=
  arguments.foldlM (fun settings argument => grammar.operand argument settings) settings

def read (grammar : Grammar Settings) : List String → Settings → Except Refusal Settings
  | [], settings => .ok settings
  | argument :: rest, settings =>
    if argument = "--" then grammar.operands rest settings
    else if isHyphened argument then
      match grammar.hyphened argument.toList settings with
      | .error refusal => .error refusal
      | .ok (.applied settings) => grammar.read rest settings
      | .ok (.awaitsValue hyphens apply settings) =>
        match rest with
        | [] => .error .usage
        | value :: rest =>
          if isHyphened value && !hyphens then .error .usage
          else
            match apply value settings with
            | .ok settings => grammar.read rest settings
            | .error refusal => .error refusal
    else
      match grammar.operand argument settings with
      | .ok settings => grammar.read rest settings
      | .error refusal => .error refusal

end Grammar

/-- Fills in a setting that must not have been given before. -/
def once {α : Type} (old : Option α) (value : α) : Except Refusal (Option α) :=
  match old with
  | none => .ok (some value)
  | some _ => .error .usage

/-- Raises a flag that must not have been raised before. -/
def raised : Bool → Except Refusal Bool
  | false => .ok true
  | true => .error .usage

def orUsage {α : Type} : Option α → Except Refusal α
  | some value => .ok value
  | none => .error .usage

/-! ## Commands -/

structure MachineOptions where
  input : List Card := []
  inputFile : Option String := none
  config : Option String := none
  memorySize : Option Nat := none
  onExhausted : Option ExhaustionPolicy := none
  maxCycles : Option Nat := none
  deriving DecidableEq, Repr

structure RunOptions where
  trace : Bool := false
  traceJson : Bool := false
  dumpState : Bool := false
  outputFile : Option String := none
  deriving DecidableEq, Repr

inductive Command where
  | about
  | run (program : String) (machine : MachineOptions) (options : RunOptions)
  | debug (program : String) (machine : MachineOptions)
  | assemble (source : String) (output : Option String)
  | disassemble (deck : String)
  deriving DecidableEq, Repr

/-- The settings of all commands together; a command's grammar reaches only its own. -/
structure Settings where
  operand : Option String := none
  machine : MachineOptions := {}
  run : RunOptions := {}
  output : Option String := none
  deriving DecidableEq, Repr

def takeOperand (value : String) (settings : Settings) : Except Refusal Settings :=
  (once settings.operand value).map fun operand => { settings with operand }

def helpOption {S : Type} : OptionForm S := ⟨"help", some 'h', .flag fun _ => .error .help⟩

def policyOfName? : String → Option ExhaustionPolicy
  | "abort" => some .abort
  | "reset" => some .reset
  | _ => none

def machineOption (name : String) (letter : Option Char) (hyphens : Bool)
    (apply : String → MachineOptions → Except Refusal MachineOptions) : OptionForm Settings :=
  ⟨name, letter, .valued hyphens fun value settings =>
    (apply value settings.machine).map fun machine => { settings with machine }⟩

def machineOptions : List (OptionForm Settings) := [
  machineOption "input" (some 'i') true fun value machine =>
    .ok { machine with input := machine.input ++ Text.piecesOf ',' value },
  machineOption "input-file" none false fun value machine =>
    (once machine.inputFile value).map fun inputFile => { machine with inputFile },
  machineOption "config" (some 'c') false fun value machine =>
    (once machine.config value).map fun config => { machine with config },
  machineOption "memory-size" none false fun value machine => do
    let memorySize ← once machine.memorySize (← orUsage (Text.natural64? value.toList))
    return { machine with memorySize },
  machineOption "on-exhausted" none false fun value machine => do
    let onExhausted ← once machine.onExhausted (← orUsage (policyOfName? value))
    return { machine with onExhausted },
  machineOption "max-cycles" (some 'm') false fun value machine => do
    let maxCycles ← once machine.maxCycles (← orUsage (Text.natural64? value.toList))
    return { machine with maxCycles }]

def runFlag (name : String) (letter : Option Char)
    (apply : RunOptions → Except Refusal RunOptions) : OptionForm Settings :=
  ⟨name, letter, .flag fun settings => (apply settings.run).map fun run => { settings with run }⟩

def runOptions : List (OptionForm Settings) := [
  runFlag "trace" (some 't') fun run =>
    (raised run.trace).map fun trace => { run with trace },
  runFlag "trace-json" none fun run =>
    (raised run.traceJson).map fun traceJson => { run with traceJson },
  runFlag "dump-state" none fun run =>
    (raised run.dumpState).map fun dumpState => { run with dumpState },
  ⟨"output-file", none, .valued false fun value settings =>
    (once settings.run.outputFile value).map fun outputFile =>
      { settings with run := { settings.run with outputFile } }⟩]

def outputOption : OptionForm Settings :=
  ⟨"output", some 'o', .valued false fun value settings =>
    (once settings.output value).map fun output => { settings with output }⟩

/-- A command's options; every command has one operand. -/
def grammarOf (options : List (OptionForm Settings)) : Grammar Settings :=
  ⟨helpOption :: options, takeOperand⟩

def commandSettings (options : List (OptionForm Settings)) (arguments : List String) :
    Except Refusal (String × Settings) := do
  let settings ← (grammarOf options).read arguments {}
  return (← orUsage settings.operand, settings)

def commandNames : List String := ["run", "debug", "asm", "disasm", "help"]

def namedCommand (name : String) (arguments : List String) : Except Refusal Command := do
  match name with
  | "run" =>
    let (program, settings) ← commandSettings (machineOptions ++ runOptions) arguments
    return .run program settings.machine settings.run
  | "debug" =>
    let (program, settings) ← commandSettings machineOptions arguments
    return .debug program settings.machine
  | "asm" =>
    let (source, settings) ← commandSettings [outputOption] arguments
    return .assemble source settings.output
  | "disasm" =>
    let (deck, _) ← commandSettings [] arguments
    return .disassemble deck
  | "help" =>
    match arguments with
    | [] => throw .help
    | [topic] => if commandNames.contains topic then throw .help else throw .usage
    | _ => throw .usage
  | _ => throw .usage

/-- What may stand in front of a command. -/
def globalGrammar : Grammar Unit where
  options := [helpOption, ⟨"version", some 'V', .flag fun _ => .error .version⟩]
  operand _ _ := .error .usage

/-- The command that the arguments ask for. Without any, the program tells about itself. -/
def Command.ofArguments : List String → Except Refusal Command
  | [] => .ok .about
  | first :: rest =>
    if Grammar.isHyphened first then
      (globalGrammar.read (first :: rest) ()).map fun _ => .about
    else namedCommand first rest

end Cardiac.CommandLine
