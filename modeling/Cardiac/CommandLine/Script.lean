import Cardiac.Debugger

/-!
# Scripts

A script is what a command does to the terminal and to files, one action after the other. It is
data: it can be carried out on real files or on the model of a disk.
-/
namespace Cardiac.CommandLine

inductive FileError where
  | notFound
  | notADirectory
  | isADirectory
  | nameTooLong
  | notText
  | other (message : String)
  deriving DecidableEq, Repr

def FileError.message : FileError → String
  | .notFound => "No such file or directory (os error 2)"
  | .notADirectory => "Not a directory (os error 20)"
  | .isADirectory => "Is a directory (os error 21)"
  | .nameTooLong => "File name too long (os error 36)"
  | .notText => "stream did not contain valid UTF-8"
  | .other message => message

inductive Script where
  | finish (code : Nat)
  | print (text : String) (next : Script)
  | complain (text : String) (next : Script)
  | read (path : String) (next : Except FileError String → Script)
  | write (path text : String) (next : Except FileError Unit → Script)
  /-- The terminal is handed over to the debugger. -/
  | debug (debugger : Debugger)
  /-- The machine was still running when patience with it ended. -/
  | unfinished

namespace Script

def printLine (text : String) (next : Script) : Script := .print (text ++ "\n") next

def fail (message : String) : Script := .complain ("❌ " ++ message ++ "\n") (.finish 1)

end Script
end Cardiac.CommandLine
