import SnapshotGen.CommandLine.Arguments
import SnapshotGen.Settings

/-!
What a request changes in the settings, and where components are looked for: a terminal may be asked
for the path.
-/

namespace SnapshotGen.CommandLine

/-- What a terminal gives when it is asked for a line, or why it gives none. There may be no terminal. -/
abbrev Prompt := Option (Except String String)

namespace Request

def applied (request : Request) (settings : Settings) : Settings :=
  let general := settings.general
  { settings with
    general :=
      { general with
        prettify := request.prettify || general.prettify
        template := request.template.getD general.template } }

/-- The root of a search: the path of the request, else what a terminal gives, else the standard
one. An empty answer stands for the standard path, and blanks around an answer do not count. -/
def root (request : Request) (prompt : Prompt) (settings : Settings) : Except String String :=
  let standard := settings.general.componentsPath
  match request.componentsPath, prompt with
  | some path, _ => .ok path
  | none, none => .ok standard
  | none, some answer =>
    answer.map fun line => Text.trimmed (if line.isEmpty then standard else line)

/-- Whether the standard path is taken without a question. -/
def takesStandard (request : Request) (prompt : Prompt) : Bool :=
  request.componentsPath.isNone && prompt.isNone

end Request

end SnapshotGen.CommandLine
