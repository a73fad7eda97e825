import SnapshotGen.Filter.Basic
import SnapshotGen.Text.Blank
import SnapshotGen.Text.Utf8

/-!
A formatter is a program that rewrites the text of a test. It reads the text from its input and
writes the result to its output.
-/

namespace SnapshotGen

structure Formatter where
  command : String
  args : List String
  deriving DecidableEq, Repr

namespace Formatter

def standard : Formatter :=
  ⟨"prettier", ["--stdin-filepath", "\x7bpath\x7d", "--single-quote", "--trailing-comma", "all"]⟩

/-- Stands in arguments for the path of the test. -/
def placeholder : List Char := "\x7bpath\x7d".toList

def argsFor (formatter : Formatter) (path : String) : List String :=
  formatter.args.map fun arg =>
    String.ofList (Text.replaceAll placeholder path.toList arg.toList)

inductive Failure
  | notStarted (command reason : String)
  | exited (command : String) (status : String) (complaint : String)
  | notText (command : String)
  deriving DecidableEq, Repr

namespace Failure

def message : Failure → String
  | notStarted command reason => "failed to run formatter '" ++ command ++ "': " ++ reason
  | exited command status complaint =>
    "formatter '" ++ command ++ "' exited with " ++ status ++ ": " ++ complaint
  | notText command => "formatter '" ++ command ++ "' produced non-UTF-8 output"

end Failure

def unknownProgram : String := "No such file or directory (os error 2)"

/-- What is made of what a program left. -/
def result (formatter : Formatter) (outcome : Filter.Outcome) : Except Failure String :=
  if outcome.ending.isSuccess then
    match String.fromUTF8? ⟨outcome.output.toArray⟩ with
    | some formatted => .ok formatted
    | none => .error (.notText formatter.command)
  else
    let complaint := Text.trim (Text.decodedWithSubstitutes outcome.complaint)
    .error (.exited formatter.command outcome.ending.shown (String.ofList complaint))

/-- What the formatter makes of a text that is to stand at a path, given the programs there are:
nothing at all where the program never returns. -/
def apply (formatter : Formatter) (programs : String → Option Process) (text path : String) :
    Option (Except Failure String) :=
  match programs formatter.command with
  | none => some (.error (.notStarted formatter.command unknownProgram))
  | some process =>
    (process (formatter.argsFor path) (Filter.ofText text)).map formatter.result

end Formatter

end SnapshotGen
