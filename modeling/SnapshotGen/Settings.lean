import SnapshotGen.Datum.Description
import SnapshotGen.Formatter

/-!
Settings: where components are sought, how tests are written and formatted, and fixtures beyond the
builtin ones.
-/

namespace SnapshotGen

structure GeneralSettings where
  componentsPath : String
  prettify : Bool
  template : String
  extensions : List String
  skipTests : Bool
  deriving DecidableEq, Repr

structure Settings where
  general : GeneralSettings
  formatter : Formatter
  fixtures : List Fixture
  deriving DecidableEq, Repr

def GeneralSettings.standard : GeneralSettings :=
  ⟨"./", false, "", ["js"], true⟩

namespace Settings

def standard : Settings :=
  ⟨.standard, .standard, []⟩

inductive Invalid
  | noExtension
  | noFormatter
  | emptyFixture (place : Nat)
  deriving DecidableEq, Repr

namespace Invalid

def field : Invalid → String
  | noExtension => "general.extensions"
  | noFormatter => "formatter.command"
  | emptyFixture place => "fixtures[" ++ toString place ++ "]"

def reason : Invalid → String
  | noExtension => "at least one file extension is required"
  | noFormatter => "a formatter command is required when prettify is enabled"
  | emptyFixture _ => "type_name, identifier and path must not be empty"

def message (invalid : Invalid) : String :=
  "Invalid configuration value for '" ++ invalid.field ++ "': " ++ invalid.reason

end Invalid

def hasEmptyPart (fixture : Fixture) : Bool :=
  Text.blank fixture.typeName || Text.blank fixture.identifier || Text.blank fixture.path

def invalid? (settings : Settings) : Option Invalid :=
  if settings.general.extensions.all Text.blank then some .noExtension
  else if settings.general.prettify && Text.blank settings.formatter.command then some .noFormatter
  else (settings.fixtures.findIdx? hasEmptyPart).map .emptyFixture

def catalog (settings : Settings) : Catalog :=
  Catalog.builtin.insertAll settings.fixtures

def plainExtension (extension : String) : String :=
  String.ofList ((Text.trim extension.toList).dropWhile (· == '.'))

def extensions (settings : Settings) : List String :=
  (settings.general.extensions.map plainExtension).filter (· ≠ "")

def templatePath? (settings : Settings) : Option String :=
  if Text.blank settings.general.template then none else some (Text.trimmed settings.general.template)

def noComponentsMessage (extensions : List String) : String :=
  "Did not find any " ++ "/".intercalate (extensions.map ("." ++ ·)) ++ " files"

open Datum

inductive GeneralField
  | text (s : String)
  | flag (holds : Bool)
  | texts (ss : List String)

namespace GeneralField

def text? : GeneralField → Option String
  | text s => some s
  | _ => none

def flag? : GeneralField → Option Bool
  | flag holds => some holds
  | _ => none

def texts? : GeneralField → Option (List String)
  | texts ss => some ss
  | _ => none

end GeneralField

def readGeneral (key : String) (datum : Datum) : Decoded GeneralField :=
  match key with
  | "prettify" | "skip_tests" => .flag <$> datum.asFlag
  | "extensions" => .texts <$> datum.asList asText
  | _ => .text <$> datum.asText

def generalLayout (isOpen : Bool) : Layout GeneralField :=
  let fields := ["components_path", "prettify", "template", "extensions", "skip_tests"]
  { name := "GeneralConfig", fields, optional := [], defaulted := fields, isOpen, read := readGeneral }

def generalOf (fields : List (String × GeneralField)) : GeneralSettings :=
  let base := GeneralSettings.standard
  { componentsPath := (pick? fields "components_path" GeneralField.text?).getD base.componentsPath
    prettify := (pick? fields "prettify" GeneralField.flag?).getD base.prettify
    template := (pick? fields "template" GeneralField.text?).getD base.template
    extensions := (pick? fields "extensions" GeneralField.texts?).getD base.extensions
    skipTests := (pick? fields "skip_tests" GeneralField.flag?).getD base.skipTests }

def readFormatter (key : String) (datum : Datum) : Decoded GeneralField :=
  match key with
  | "args" => .texts <$> datum.asList asText
  | _ => .text <$> datum.asText

def formatterLayout (isOpen : Bool) : Layout GeneralField :=
  let fields := ["command", "args"]
  { name := "FormatterConfig", fields, optional := [], defaulted := fields, isOpen
    read := readFormatter }

def formatterOf (fields : List (String × GeneralField)) : Formatter :=
  let base := Formatter.standard
  { command := (pick? fields "command" GeneralField.text?).getD base.command
    args := (pick? fields "args" GeneralField.texts?).getD base.args }

inductive Section
  | general (settings : GeneralSettings)
  | formatter (settings : Formatter)
  | fixtures (fixtures : List Fixture)

def readSection (isOpen : Bool) (key : String) (datum : Datum) : Decoded Section :=
  match key with
  | "general" => (.general <| generalOf ·) <$> (generalLayout isOpen).decode datum
  | "formatter" => (.formatter <| formatterOf ·) <$> (formatterLayout isOpen).decode datum
  | _ =>
    .fixtures <$> datum.asList fun datum =>
      Fixture.ofFields <$> (Fixture.layout "FixtureEntry" isOpen).decode datum

def layout (isOpen : Bool) : Layout Section :=
  let fields := ["general", "formatter", "fixtures"]
  { name := "SnapConfig", fields, optional := [], defaulted := fields, isOpen
    read := readSection isOpen }

def ofSections (sections : List (String × Section)) : Settings :=
  { general := (pick? sections "general" fun | .general s => some s | _ => none).getD .standard
    formatter := (pick? sections "formatter" fun | .formatter s => some s | _ => none).getD .standard
    fixtures := (pick? sections "fixtures" fun | .fixtures s => some s | _ => none).getD [] }

/-- Settings from data; in an open reading, items of a list beyond the fields do not count. -/
def ofDatum (isOpen : Bool) (datum : Datum) : Decoded Settings :=
  ofSections <$> (layout isOpen).decode datum

end Settings

end SnapshotGen
