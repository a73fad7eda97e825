import SnapshotGen.Diagnostic
import SnapshotGen.Text.Quoted

/-!
Notices on the course of a run, as lines of a log.
-/

namespace SnapshotGen

/-- How much a notice matters, from what stops the work on a file to what only traces it. -/
inductive Level
  | error
  | warning
  | info
  | debug
  | trace
  deriving DecidableEq, Repr

namespace Level

def rank : Level → Nat
  | error => 1
  | warning => 2
  | info => 3
  | debug => 4
  | trace => 5

def shown : Level → String
  | error => "ERROR"
  | warning => "WARN"
  | info => "INFO"
  | debug => "DEBUG"
  | trace => "TRACE"

end Level

inductive Notice
  | standardPath (path : String)
  | filesFound (root : String) (count : Nat)
  | spreadSkipped (spread : String)
  | extracted (component : String) (props : Nat)
  | standIn (prop literal : String)
  | remark (diagnostic : Diagnostic)
  | notExtracted (path reason : String)
  | notFormatted (path reason : String)
  | written (path : String) (isFormatted : Bool)
  | notWritten (path reason : String)
  | formattingDone (count : Nat)
  deriving DecidableEq, Repr

namespace Notice

def level : Notice → Level
  | notExtracted .. | notWritten .. => .error
  | remark _ | notFormatted .. => .warning
  | _ => .debug

def origin : Notice → String
  | standardPath _ => "snapgen::prompt"
  | filesFound .. | formattingDone _ => "snapgen"
  | spreadSkipped _ => "snap_parser::docgen::prop_types"
  | extracted .. => "snap_parser::docgen"
  | standIn .. => "snap_core::metadata"
  | remark _ | notExtracted .. | notWritten .. => "snapgen::pipeline"
  | notFormatted .. | written .. => "snap_render::writer"

def flagText (holds : Bool) : String :=
  if holds then "true" else "false"

def text : Notice → String
  | standardPath path =>
    "stdin is not a terminal, using configured components path default=" ++ Text.quoted path
  | filesFound root count => "found component files root=" ++ root ++ " files=" ++ toString count
  | spreadSkipped spread => "skipping spread in propTypes spread=" ++ spread
  | extracted component props =>
    "extracted component component=" ++ component ++ " props=" ++ toString props
  | standIn prop literal => "synthesized fake value prop=" ++ prop ++ " literal=" ++ literal
  | remark diagnostic =>
    diagnostic.message ++ (diagnostic.prop?.elim "" fun prop => " prop=" ++ Text.quoted prop)
  | notExtracted path reason =>
    "Couldn't extract props from file path=" ++ path ++ " error=" ++ reason
  | notFormatted path reason =>
    "formatting failed, writing unformatted output path=" ++ path ++ " error=" ++ reason
  | written path isFormatted =>
    "wrote test file path=" ++ path ++ " formatted=" ++ flagText isFormatted
  | notWritten path reason => "Couldn't write test file path=" ++ path ++ " error=" ++ reason
  | formattingDone count => "formatter pass complete formatted=" ++ toString count

def line (notice : Notice) : String :=
  notice.level.shown ++ " " ++ notice.origin ++ ": " ++ notice.text

end Notice

end SnapshotGen
