import Cardiac.CommandLine.Loading
import Cardiac.CommandLine.Path
import Cardiac.Json.Printer

/-!
# Commands

The script of every command: running a program, debugging it, assembling a source to a card
image, and listing a card image as source.
-/
namespace Cardiac.CommandLine

namespace Script

/-! ## Running -/

def traceLine (snapshot : Snapshot) : String :=
  Memory.addressText snapshot.address.toNat ++ ": " ++ Text.padRight 8 snapshot.instruction.text ++
    " ACC=" ++ Text.padRight 6 (toString snapshot.registers.acc.toInt) ++
    " PC=" ++ Memory.addressText snapshot.registers.pc.toNat ++
    " NEXT IN=" ++ snapshot.nextInput.getD "-" ++ "\n"

/-- What the trace options print for a snapshot. -/
def traceText (options : RunOptions) (snapshot : Snapshot) : String :=
  if options.traceJson then snapshot.toJson.compact ++ "\n"
  else if options.trace then traceLine snapshot
  else ""

def heading (title : String) : String := "\n━━━ " ++ title ++ " ━━━\n"

def resultText (summary : RunSummary) (machine : Machine Deck) : String :=
  heading "Result" ++
    "Cycles: " ++ toString summary.cycles ++ "\n" ++
    "Stop:   " ++ summary.reason.name ++ "\n" ++
    "ACC:    " ++ toString machine.registers.acc.toInt ++ "\n" ++
    "PC:     " ++ Memory.addressText machine.registers.pc.toNat ++ "\n"

/-- Writes the punched cards to a deck file, if one is wanted. -/
def saveOutput (options : RunOptions) (deck : Deck) (next : Script) : Script :=
  match options.outputFile with
  | none => next
  | some path =>
    .write path (textOfCards deck.output.toList) fun
      | .ok () => printLine ("💾 Output cards saved to " ++ path) next
      | .error error => fail ("Failed to save output deck: I/O error: " ++ error.message)

def dumpState (options : RunOptions) (machine : Machine Deck) (next : Script) : Script :=
  if options.dumpState then printLine machine.toJson.pretty next else next

def report (options : RunOptions) (machine : Machine Deck) :
    Except Fault RunSummary → Script
  | .error fault =>
    fail ("CPU error at PC=" ++ Memory.addressText machine.registers.pc.toNat ++ ": " ++ fault.message)
  | .ok summary =>
    .print (heading "Output" ++ textOfCards machine.port.output.toList) <|
    .print (resultText summary machine) <|
    saveOutput options machine.port <|
    dumpState options machine <|
    if summary.reason = .cycleLimit then
      .print "\n⚠️  Reached max cycles limit. Use --max-cycles to increase.\n" (.finish 0)
    else .finish 0

/-- Runs a booted machine. Without a cycle limit it is given `patience` steps. -/
def execute (options : RunOptions) (limit : Option Nat) (patience : Nat)
    (machine : Machine Deck) : Script :=
  let observe (trace : String) (snapshot : Snapshot) := trace ++ traceText options snapshot
  match machine.runObserved? observe "" limit patience with
  | none => .unfinished
  | some done => .print done.seen (report options done.machine done.result)

def run (patience : Nat) (program : String) (machine : MachineOptions) (options : RunOptions) :
    Script :=
  printLine ("🔧 Running: " ++ program) <|
  loadProgram program fun image =>
  loadConfig machine fun config =>
  loadInput machine fun input =>
  .print (heading "Execution") <|
  execute options config.maxCycles patience (Debugger.bootedMachine image input config)

/-! ## Other commands -/

def launchDebugger (program : String) (machine : MachineOptions) : Script :=
  printLine ("🔍 Loading: " ++ program) <|
  loadProgram program fun image =>
  loadConfig machine fun config =>
  loadInput machine fun input =>
  .print "🚀 Launching debugger...\n\n" (.debug (Debugger.start image input config))

def symbolLine (symbol : String × Nat) : String :=
  "  " ++ Text.padRight 10 symbol.1 ++ " " ++ Memory.addressText symbol.2 ++ "\n"

/-- Writes the image of a source to a file, by default beside the source. A path spelled like
the source's is refused. -/
def assembleTo (source : String) (output : Option String) : Script :=
  let path := output.getD (Path.withExtension source "cdc")
  if Path.spelledAlike path source then
    fail ("Refusing to overwrite source " ++ source ++ " with its card image; pass -o")
  else
    printLine ("📝 Assembling: " ++ source ++ " → " ++ path) <|
    loadSource source fun program =>
    printLine ("✓ " ++ assembledText program) <|
    .print (String.join (program.symbols.map symbolLine)) <|
    .write path program.image.text fun
      | .ok () => printLine ("✓ Saved to " ++ path) (.finish 0)
      | .error error => fail ("Failed to save card image: I/O error: " ++ error.message)

def disassemble (deck : String) : Script :=
  .print ("📖 Disassembling: " ++ deck ++ "\n\n") <|
  loadImage deck fun image =>
  match Memory.standard.write image.pairs with
  | (.error error, _) => fail ("Failed to load card image: " ++ error.message)
  | (.ok (), memory) =>
    printLine (memory.listing 0 (memory.size + 1)) <|
    match image.entryPoint? with
    | some start => printLine ("; start address " ++ Memory.addressText start.val) (.finish 0)
    | none => .finish 0

def about : Script :=
  .print "CARDIAC Emulator v0.1.0\nA decimal cardboard computer emulator\n\n" <|
  printLine "Use --help for available commands" (.finish 0)

def help : String :=
  "An emulator and assembler for the CARDIAC (1968) cardboard computer\n\n" ++
  "Commands:\n" ++
  "  run PROGRAM     Boot and run a program\n" ++
  "  debug PROGRAM   Debug a program\n" ++
  "  asm SOURCE      Assemble a source to a card image\n" ++
  "  disasm DECK     List a card image\n\n" ++
  "Options of run and debug: -i/--input CARDS, --input-file FILE, -c/--config FILE,\n" ++
  "  --memory-size N, --on-exhausted abort|reset, -m/--max-cycles N\n" ++
  "Options of run: -t/--trace, --trace-json, --dump-state, --output-file FILE\n" ++
  "Options of asm: -o/--output FILE\n"

def ofCommand (patience : Nat) : Command → Script
  | .about => about
  | .run program machine options => run patience program machine options
  | .debug program machine => launchDebugger program machine
  | .assemble source output => assembleTo source output
  | .disassemble deck => disassemble deck

/-- What `main` does with the arguments. The grammar behind `commandOf` has no part in it. -/
def ofArguments (commandOf : List String → Except Refusal Command) (patience : Nat)
    (arguments : List String) : Script :=
  match commandOf arguments with
  | .ok command => ofCommand patience command
  | .error .help => .print help (.finish 0)
  | .error .version => .print "cardiac-emu 0.1.0\n" (.finish 0)
  | .error .usage => .complain "error: invalid arguments, try --help\n" (.finish 2)

end Script
end Cardiac.CommandLine
