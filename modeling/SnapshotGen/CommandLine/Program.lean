import SnapshotGen.Batch
import SnapshotGen.CommandLine.LogFilter
import SnapshotGen.CommandLine.Settings
import SnapshotGen.ComponentFiles
import SnapshotGen.Ignore.UserRules
import SnapshotGen.Settings.Load

/-!
The program: from arguments, settings and a disk to the tests that are written, what is said, and
the exit code. Files of settings, where they are there, must be readable.
-/

namespace SnapshotGen.CommandLine

structure Surroundings where
  environment : Environment
  disk : Disk
  programs : String → Option Process
  prompt : Prompt

/-- What a run leaves: the exit code, both outputs, and the disk. -/
structure Outcome where
  code : Nat
  output : String
  errors : List String
  disk : Disk

inductive Failure
  | unreadable (path : String) (problem : FileProblem)
  | settings (failure : Settings.LoadFailure)
  | invalid (invalid : Settings.Invalid)
  | unanswered (reason : String)
  | noDirectory (root : String)
  | template (path : String) (failure : Engine.Failure)

/-- The file that a path leads to. Where it is relative, it is also looked for in the directories
above the working directory, and the nearest file counts. -/
def nearestFile? (disk : Disk) (path : String) : Option FileTree :=
  let fileFrom? (directory : List String) : Option FileTree :=
    (Disk.find ⟨disk.tree, directory⟩ path).toOption.filter (!·.isDirectory)
  if Path.isAbsolute path.toList then fileFrom? disk.workingDirectory
  else
    let depth := disk.workingDirectory.length
    (List.range (depth + 1)).findSome? fun steps =>
      fileFrom? (disk.workingDirectory.take (depth - steps))

/-- What the nearest variable file has up to the first line that is not text. -/
def variableText? (disk : Disk) : Option String :=
  match nearestFile? disk ".env" with
  | some (.file content) =>
    some (String.ofList (['\n'].intercalate (Text.leadingLines content)))
  | _ => none

/-- The environment with what the variable file adds to it. -/
def environment (surroundings : Surroundings) : Environment :=
  match variableText? surroundings.disk with
  | some text => Settings.VariableFile.extend surroundings.environment text
  | none => surroundings.environment

def userDirectory? (environment : Environment) : Option String :=
  match (environment.value? "XDG_CONFIG_HOME").filter (Path.isAbsolute ·.toList) with
  | some directory => some directory
  | none => ((environment.value? "HOME").filter (!·.isEmpty)).map (· ++ "/.config")

def userFilePath? (environment : Environment) : Option String :=
  (userDirectory? environment).map fun directory =>
    String.ofList (Path.join directory.toList "snapgen/config.toml".toList)

def projectFilePath : String :=
  "snapgen.toml"

def shownPath (disk : Disk) (path : String) : String :=
  if Path.isAbsolute path.toList then
    String.ofList (Path.shownFrom disk.workingPath.toList path.toList)
  else path

def userFileName (surroundings : Surroundings) : String :=
  shownPath surroundings.disk ((userFilePath? (environment surroundings)).getD "")

/-- The text of a file of settings. Something must stand on the path itself for it to be read. -/
def settingsText (disk : Disk) (path : String) : Except Failure (Option String) :=
  if (disk.find path).isOk then
    match nearestFile? disk path with
    | some file => (file.text.map some).mapError (.unreadable (shownPath disk path))
    | none => .ok none
  else .ok none

def sources (surroundings : Surroundings) : Except Failure Settings.Sources := do
  let disk := surroundings.disk
  let projectFile ← settingsText disk projectFilePath
  let userFile ←
    match userFilePath? (environment surroundings) with
    | some path => settingsText disk path
    | none => pure none
  let variableFile := variableText? disk
  return { userFile, projectFile, variableFile, environment := surroundings.environment }

def logFilter (request : Request) (environment : Environment) : LogFilter :=
  let level : Level :=
    if request.quiet then .error else if request.verbose then .debug else .warning
  ((environment.value? "SNAPGEN_LOG").bind LogFilter.ofText?).getD (.upTo level)

def logLines (filter : LogFilter) (notices : List Notice) : List String :=
  (notices.filter filter.admits).flatMap fun notice =>
    (Text.splitAt '\n' notice.line.toList).map String.ofList

namespace Failure

def ofSettings (cause : String) : String :=
  "failed to load snapgen configuration: Configuration error: " ++ cause ++ ": " ++ cause

def message (userFileName : String) : Failure → String
  | unreadable path problem => ofSettings (problem.message ++ " in " ++ path ++ " TOML file")
  | settings failure => ofSettings (failure.message userFileName)
  | invalid found => found.message
  | unanswered reason => "failed to read components path: IO error: " ++ reason ++ ": " ++ reason
  | noDirectory root => "components path '" ++ root ++ "' is not a directory"
  | template path failure =>
    "failed to load template '" ++ path ++ "': " ++ failure.message ++ ": " ++ failure.cause

end Failure

def load (surroundings : Surroundings) : Except Failure Settings := do
  (Settings.load (← sources surroundings)).mapError .settings

def settingsOf (request : Request) (surroundings : Surroundings) : Except Failure Settings := do
  let settings := request.applied (← load surroundings)
  match settings.invalid? with
  | some invalid => .error (.invalid invalid)
  | none => return settings

def rootOf (request : Request) (settings : Settings) (surroundings : Surroundings) :
    Except Failure String := do
  let root ← (request.root surroundings.prompt settings).mapError .unanswered
  if surroundings.disk.isDirectory root then return root else .error (.noDirectory root)

def templatePath? (settings : Settings) (disk : Disk) : Option String :=
  settings.templatePath?.map disk.absolute

def engineOf (template : Option String) (disk : Disk) : Except Failure Engine :=
  match template with
  | some path => (Engine.ofFile path (disk.read path)).mapError (.template path)
  | none => Engine.builtin.mapError (.template Engine.builtinName)

def toolsOf (settings : Settings) (engine : Engine) (surroundings : Surroundings) : Tools :=
  let format := settings.formatter.apply surroundings.programs
  { catalog := settings.catalog
    render := engine.render (environment surroundings).variables
    format := if settings.general.prettify then some format else none }

def searchOf (settings : Settings) (surroundings : Surroundings) : ComponentFiles.Search :=
  let everywhere := Ignore.userRules (environment surroundings) surroundings.disk
  ⟨settings.extensions, settings.general.skipTests, Ignore.excludes everywhere⟩

/-- What a batch leaves, with what is said before and after it. -/
structure BatchOutcome where
  output : String
  notices : List Notice
  disk : Disk

def batchOf (request : Request) (settings : Settings) (root : String) (engine : Engine)
    (surroundings : Surroundings) : Option BatchOutcome :=
  let disk := surroundings.disk
  let files := (searchOf settings surroundings).collect disk root
  if files.isEmpty then
    some ⟨Settings.noComponentsMessage settings.extensions ++ "\n", [], disk⟩
  else
    (Batch.run? (toolsOf settings engine surroundings) root disk files).map fun report =>
      { output := if request.quiet then "" else report.summary ++ "\n"
        notices :=
          .filesFound root files.length :: report.notices ++ [.formattingDone report.formatted]
        disk := report.disk }

def received (path : String) : String :=
  "Received custom template of: " ++ path ++ "\n"

def perform (request : Request) (surroundings : Surroundings) : Option Outcome :=
  let disk := surroundings.disk
  let filter := logFilter request surroundings.environment
  let fail (output : String) (notices : List Notice) (failure : Failure) : Option Outcome :=
    let line := "snapgen error: " ++ failure.message (userFileName surroundings)
    some ⟨1, output, logLines filter notices ++ [line], disk⟩
  match settingsOf request surroundings with
  | .error failure => fail "" [] failure
  | .ok settings =>
    let standard : Notice := .standardPath settings.general.componentsPath
    let first := if request.takesStandard surroundings.prompt then [standard] else []
    match rootOf request settings surroundings with
    | .error failure => fail "" first failure
    | .ok root =>
      let template := templatePath? settings disk
      let greeting := template.elim "" received
      match engineOf template disk with
      | .error failure => fail greeting first failure
      | .ok engine =>
        (batchOf request settings root engine surroundings).map fun batch =>
          ⟨0, greeting ++ batch.output, logLines filter (first ++ batch.notices), batch.disk⟩

def messageLines (message : String) : List String :=
  (Text.lines message.toList).map String.ofList

def run (arguments : List String) (surroundings : Surroundings) : Option Outcome :=
  match Request.ofArguments arguments with
  | .ok request => perform request surroundings
  | .error stop =>
    if stop.isAnswer then some ⟨0, stop.message, [], surroundings.disk⟩
    else some ⟨2, "", messageLines stop.message, surroundings.disk⟩

end SnapshotGen.CommandLine
