import SnapshotGen.Environment
import SnapshotGen.Ignore.Rules

/-!
The rules of a user, which hold in every directory. The file they stand in is named by the settings
of the version control, or it has a usual place.
-/

namespace SnapshotGen.Ignore.UserRules

def home? (environment : Environment) : Option String :=
  (environment.value? "HOME").filter (!·.isEmpty)

def settingsPath? (environment : Environment) (name : String) : Option String :=
  let directory :=
    ((environment.value? "XDG_CONFIG_HOME").filter (!·.isEmpty)).or
      ((home? environment).map (· ++ "/.config"))
  directory.map fun directory => String.ofList (Path.join directory.toList name.toList)

def content? (disk : Disk) (path : String) : Option ByteArray :=
  match disk.find path with
  | .ok (.file content) => some content
  | _ => none

def withoutQuotes (cs : List Char) : List Char :=
  let cs := if cs.head? = some '"' then cs.drop 1 else cs
  if cs.getLast? = some '"' then cs.dropLast else cs

/-- The path that a line gives, if it is about the file of rules. Capitals do not count in its key. -/
def pathOfLine? (line : List Char) : Option (List Char) :=
  let key := "excludesfile".toList
  let line := Text.trim line
  if (line.take key.length).map Char.toLower = key then
    match Text.trimStart (line.drop key.length) with
    | '=' :: value =>
      let path := Text.trim (withoutQuotes (Text.trim value))
      if path.isEmpty || path.any Text.isBlank then none else some path
    | _ => none
  else none

def pathOfSettings? (content : ByteArray) : Option (List Char) :=
  (Text.byteLines content.toList).findSome? fun bytes =>
    (String.fromUTF8? ⟨bytes.toArray⟩).bind (pathOfLine? ·.toList)

/-- A path in which a tilde stands for the directory of the user. -/
def expanded (environment : Environment) (path : List Char) : String :=
  String.ofList <|
    match home? environment with
    | some home => Text.replaceAll ['~'] home.toList path
    | none => path

def settingsPaths (environment : Environment) : List String :=
  ((home? environment).map (· ++ "/.gitconfig")).toList ++
    (settingsPath? environment "git/config").toList

def path? (environment : Environment) (disk : Disk) : Option String :=
  let named := (settingsPaths environment).findSome? fun path =>
    (content? disk path).bind pathOfSettings?
  (named.map (expanded environment)).or (settingsPath? environment "git/ignore")

end UserRules

def userRules (environment : Environment) (disk : Disk) : Rules :=
  (((UserRules.path? environment disk).bind (UserRules.content? disk)).map Rules.ofContent).getD []

end SnapshotGen.Ignore
