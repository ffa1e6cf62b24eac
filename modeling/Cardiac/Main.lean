import Cardiac.CommandLine.Commands
import Cardiac.Screen.Drawing

/-!
# The program

Carries out the script of the command line on real files and a real terminal. The debugger is
driven line by line: every character of a line is a key, and an empty line lets a running
machine tick on.
-/
namespace Cardiac.Terminal

open CommandLine

/-- The system's words for an error, with its number. -/
def fileError : IO.Error → FileError
  | .noFileOrDirectory .. => .notFound
  | .alreadyExists _ code details | .invalidArgument _ code details
  | .permissionDenied _ code details | .resourceExhausted _ code details
  | .inappropriateType _ code details | .noSuchThing _ code details
  | .interrupted _ code details | .otherError code details | .resourceBusy code details
  | .resourceVanished code details | .unsupportedOperation code details
  | .hardwareFault code details | .unsatisfiedConstraints code details
  | .illegalOperation code details | .protocolError code details | .timeExpired code details =>
    .other (details ++ " (os error " ++ toString code ++ ")")
  | error => .other (toString error)

def readText (path : String) : IO (Except FileError String) := do
  try
    let bytes ← IO.FS.readBinFile path
    match String.fromUTF8? bytes with
    | some text => return .ok text
    | none => return .error .notText
  catch error => return .error (fileError error)

def writeText (path text : String) : IO (Except FileError Unit) := do
  try
    IO.FS.writeFile path text
    return .ok ()
  catch error => return .error (fileError error)

/-- How many ticks a line gives a running machine. -/
def ticksPerLine : Nat := 1000

partial def debug (debugger : Debugger) : IO Unit := do
  for row in Screen.draw debugger 100 30 do
    IO.println (String.join (row.map (·.glyph)))
  let line ← (← IO.getStdin).getLine
  if line.isEmpty then return
  let keys := line.toList.filter (· ≠ '\n')
  let pressed := keys.foldl (fun debugger key => debugger.press (.char key)) debugger
  if pressed.quit then return
  debug (pressed.tickWhileRunning ticksPerLine).2

def carryOut : Script → IO UInt32
  | .finish code => return UInt32.ofNat code
  | .print text next => do IO.print text; carryOut next
  | .complain text next => do IO.eprint text; carryOut next
  | .read path next => do carryOut (next (← readText path))
  | .write path text next => do carryOut (next (← writeText path text))
  | .debug debugger => do debug debugger; return 0
  | .unfinished => return 1

/-- More steps than a run can take in a lifetime. -/
def patience : Nat := 1 <<< 62

end Cardiac.Terminal

def main (arguments : List String) : IO UInt32 :=
  Cardiac.Terminal.carryOut <|
    Cardiac.CommandLine.Script.ofArguments Cardiac.CommandLine.Command.ofArguments
      Cardiac.Terminal.patience arguments
