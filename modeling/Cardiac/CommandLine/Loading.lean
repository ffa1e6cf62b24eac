import Cardiac.Assembly.Program
import Cardiac.CommandLine.Arguments
import Cardiac.CommandLine.Script
import Cardiac.Json.Reader
import Cardiac.Stored.Forms

/-!
# Loading

What the commands share: reading a program, a machine configuration and input cards from files.
Each of these scripts ends the command if it fails, and else goes on with what it has read.
-/
namespace Cardiac.CommandLine

namespace Script

def loadImage (path : String) (next : CardImage → Script) : Script :=
  .read path fun
    | .error error => fail ("Failed to load card image: I/O error: " ++ error.message)
    | .ok text =>
      match CardImage.parse text with
      | .ok image => next image
      | .error error => fail ("Failed to load card image: " ++ error.message)

def assembledText (program : AssembledProgram) : String :=
  "Assembled " ++ toString program.image.cardCount ++ " cards, start address " ++
    Memory.addressText program.start

def loadSource (path : String) (next : AssembledProgram → Script) : Script :=
  .read path fun
    | .error error => fail ("Failed to read file: " ++ error.message)
    | .ok source =>
      match assemble source with
      | .ok program => next program
      | .error error => fail ("Assembly error: " ++ error.message)

/-- Reads a program: a source if the path says so, else a card image. -/
def loadProgram (path : String) (next : CardImage → Script) : Script :=
  if path.endsWith ".asm" then
    loadSource path fun program =>
      printLine ("📝 " ++ assembledText program) (next program.image)
  else
    loadImage path fun image =>
      printLine ("📂 Loaded " ++ toString image.cardCount ++ " cards") (next image)

/-- A configuration with the settings of the command line put over it. -/
def overridden (options : MachineOptions) (config : Config) : Config where
  memorySize := options.memorySize.getD config.memorySize
  onExhausted := options.onExhausted.getD config.onExhausted
  maxCycles := options.maxCycles <|> config.maxCycles

/-- Goes on with a configuration if its memory size is supported. -/
def withConfig (options : MachineOptions) (next : Config → Script) (config : Config) : Script :=
  let config := overridden options config
  match Memory.checkSize config.memorySize with
  | .ok _ => next config
  | .error error => fail ("Invalid machine config: " ++ error.message)

def configOfText? (text : String) : Option Config := do
  (Config.ofJson (← Json.ofText? text)).toOption

/-- Reads the configuration file, if there is one, and puts the command line's settings over
it. -/
def loadConfig (options : MachineOptions) (next : Config → Script) : Script :=
  match options.config with
  | none => withConfig options next {}
  | some path =>
    .read path fun
      | .error error => fail ("Failed to read config: " ++ error.message)
      | .ok text =>
        match configOfText? text with
        | some config => withConfig options next config
        | none => fail ("Invalid config " ++ path ++ ": not a machine configuration")

/-- The cards given as arguments, followed by those of the input file. -/
def loadInput (options : MachineOptions) (next : List Card → Script) : Script :=
  match options.inputFile with
  | none => next options.input
  | some path =>
    .read path fun
      | .error error => fail ("Failed to load input deck: I/O error: " ++ error.message)
      | .ok text => next (options.input ++ cardsOfText text)

end Script
end Cardiac.CommandLine
