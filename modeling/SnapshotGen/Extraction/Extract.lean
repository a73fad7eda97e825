import SnapshotGen.Extraction.DeclaredTypes
import SnapshotGen.Extraction.Defaults
import SnapshotGen.Script.Module

/-!
The component that a script defines, or why there is none.
-/

namespace SnapshotGen.Extraction

open Script

inductive Failure
  | unsupported (path : String)
  | malformed (dialect : Dialect)
  | noComponent
  deriving DecidableEq, Repr

def Failure.message : Failure → String
  | unsupported path => "Language not supported: " ++ path
  | malformed dialect => "Parse failed for " ++ dialect.name ++ ": source contains syntax errors"
  | noComponent => "No suitable component definition found."

/-- What was read from a script: the component, and the spreads that were passed over. -/
structure Extract where
  component : Component
  spreads : List String

/-- The members of the `propTypes` of a component. As many objects as the script has bound those
inside one another, unless one contains itself. -/
def declarations (survey : Survey) (program : Node) (candidate : Candidate) : List Declared :=
  let object := (survey.staticValue? candidate "propTypes").bind survey.object?
  (object.bind (declared? survey (program.count .object + 1))).getD []

/-- The name a component goes by: its static `displayName` if that is a literal, else its own. -/
def displayName (survey : Survey) (candidate : Candidate) : String :=
  ((survey.staticValue? candidate "displayName").bind Node.stringValue?).getD candidate.name

def extractFrom (survey : Survey) (program : Node) (candidate : Candidate) : Extract :=
  let declared := declarations survey program candidate
  let props :=
    attachDefaults (declared.filterMap Declared.prop?) (defaultsOf survey candidate)
  let name := displayName survey candidate
  { component :=
      { displayName := if name = "" then none else some name
        description := candidate.description
        props := if props.isEmpty then none else some props }
    spreads := declared.filterMap Declared.spread? }

def ofProgram (program : Node) : Except Failure Extract :=
  let survey := Survey.ofProgram program
  match survey.resolve? with
  | some candidate => .ok (extractFrom survey program candidate)
  | none => .error .noComponent

def ofSource (dialect : Dialect) (source : String) : Except Failure Extract :=
  match Module.read? dialect source.toList with
  | some program => ofProgram program
  | none => .error (.malformed dialect)

def extract (path source : String) : Except Failure Extract :=
  match Dialect.ofPath? path.toList with
  | some dialect => ofSource dialect source
  | none => .error (.unsupported path)

end SnapshotGen.Extraction
