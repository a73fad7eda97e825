import SnapshotGen.Text.Similarity

/-!
The arguments of a command: an optional path to components, and switches in short and long form.
-/

namespace SnapshotGen.CommandLine

inductive Switch
  | prettify
  | template
  | quiet
  | verbose
  | help
  | version
  deriving DecidableEq, Repr

namespace Switch

def takesValue (switch : Switch) : Bool :=
  switch = template

def names : List (String × Switch) :=
  [("prettify", prettify), ("pr", prettify), ("template", template), ("quiet", quiet),
    ("verbose", verbose), ("help", help), ("version", version)]

def letters : List (Char × Switch) :=
  [('t', template), ('q', quiet), ('v', verbose), ('h', help), ('V', version)]

def ofName? (name : String) : Option Switch :=
  names.lookup name

def ofLetter? (letter : Char) : Option Switch :=
  letters.lookup letter

def shown : Switch → String
  | prettify => "--prettify"
  | template => "--template <PATH>"
  | quiet => "--quiet"
  | verbose => "--verbose"
  | help => "--help"
  | version => "--version"

end Switch

structure Request where
  componentsPath : Option String
  prettify : Bool
  template : Option String
  quiet : Bool
  verbose : Bool
  deriving DecidableEq, Repr

/-- A part of the arguments: the path, or a switch with the value that it has by now. -/
inductive Part
  | path (path : String)
  | switch (switch : Switch) (value : Option String)
  deriving DecidableEq, Repr

namespace Part

def switch? : Part → Option Switch
  | path _ => none
  | switch s _ => some s

def path? : Part → Option String
  | path p => some p
  | switch .. => none

end Part

/-- Why arguments give no request. Where a usage line is shown, it names the parts `used`. -/
inductive Stop
  | help
  | version
  | repeated (switch : Switch)
  | conflict (first second : Switch) (used : List Part)
  | unexpected (argument : String) (similar : Option String) (isDashed : Bool) (used : List Part)
  | valueMissing (switch : Switch)
  | valueUnexpected (value : String) (switch : Switch) (used : List Part)
  deriving DecidableEq, Repr

namespace Stop

def helpText : String :=
  "Generate enzyme snapshot tests for React components\n\n" ++
  "Usage: snapgen [OPTIONS] [COMPONENTS_PATH]\n\n" ++
  "Arguments:\n" ++
  "  [COMPONENTS_PATH]  Components directory (skips the interactive prompt)\n\n" ++
  "Options:\n" ++
  "      --prettify         Run generated tests through the configured formatter\n" ++
  "  -t, --template <PATH>  Custom tera template for generated tests\n" ++
  "  -q, --quiet            Quiet mode (errors only, no progress or summary)\n" ++
  "  -v, --verbose          Verbose mode (debug logging)\n" ++
  "  -h, --help             Print help\n" ++
  "  -V, --version          Print version\n"

/-- The usage line: general where nothing is used yet, else with the switches that are. -/
def usage (used : List Part) : String :=
  if used.isEmpty then "Usage: snapgen [OPTIONS] [COMPONENTS_PATH]\n"
  else
    let switches := (used.filterMap Part.switch?).eraseDups
    let path := if used.any (·.path?.isSome) then "<COMPONENTS_PATH>" else "[COMPONENTS_PATH]"
    "Usage: snapgen " ++ " ".intercalate (switches.map Switch.shown ++ [path]) ++ "\n"

def tip : Option String → Bool → String → String
  | some similar, _, _ => "\n  tip: a similar argument exists: '" ++ similar ++ "'\n"
  | none, true, argument =>
    "\n  tip: to pass '" ++ argument ++ "' as a value, use '-- " ++ argument ++ "'\n"
  | none, false, _ => ""

def detail : Stop → String
  | help | version => ""
  | repeated switch =>
    "the argument '" ++ switch.shown ++ "' cannot be used multiple times\n\n" ++ usage []
  | conflict first second used =>
    "the argument '" ++ first.shown ++ "' cannot be used with '" ++ second.shown ++ "'\n\n" ++
      usage used
  | unexpected argument similar isDashed used =>
    "unexpected argument '" ++ argument ++ "' found\n" ++ tip similar isDashed argument ++ "\n" ++
      usage used
  | valueMissing switch =>
    "a value is required for '" ++ switch.shown ++ "' but none was supplied\n"
  | valueUnexpected value switch used =>
    "unexpected value '" ++ value ++ "' for '" ++ switch.shown ++
      "' found; no more were expected\n\n" ++ usage used

def message : Stop → String
  | help => helpText
  | version => "snapgen 0.1.0\n"
  | stop => "error: " ++ stop.detail ++ "\nFor more information, try '--help'.\n"

def isAnswer : Stop → Bool
  | help | version => true
  | _ => false

end Stop

/-- The parts read so far. The last one is held until another follows: a switch without a value may
still get it. -/
structure Progress where
  settled : List Part
  held : Option Part

namespace Progress

def start : Progress :=
  ⟨[], none⟩

def hasSwitch (progress : Progress) (switch : Switch) : Bool :=
  progress.settled.any (·.switch? == some switch)

def hasPath (progress : Progress) : Bool :=
  (progress.settled ++ progress.held.toList).any (·.path?.isSome)

def awaitsValue (progress : Progress) : Bool :=
  match progress.held with
  | some (.switch _ none) => true
  | _ => false

def add (progress : Progress) (part : Part) : Except Stop Progress :=
  match part.switch? with
  | some switch =>
    if progress.hasSwitch switch then .error (.repeated switch)
    else .ok ⟨progress.settled ++ [part], none⟩
  | none => .ok ⟨progress.settled ++ [part], none⟩

def settle (progress : Progress) : Except Stop Progress :=
  match progress.held with
  | none => .ok progress
  | some (.switch switch none) => .error (.valueMissing switch)
  | some part => progress.add part

/-- The parts that count when reading stops; a held part that cannot be settled does not. -/
def used (progress : Progress) : List Part :=
  match progress.settle with
  | .ok next => next.settled
  | .error (.repeated switch) => progress.settled.filter (·.switch? != some switch)
  | .error _ => progress.settled

def give (progress : Progress) (part : Part) : Except Stop Progress := do
  (← progress.settle).add part

def hold (progress : Progress) (part : Part) : Except Stop Progress := do
  return ⟨(← progress.settle).settled, some part⟩

def flag (progress : Progress) (switch : Switch) : Except Stop Progress := do
  let next ← progress.settle
  match switch with
  | .help => .error .help
  | .version => .error .version
  | _ => next.add (.switch switch none)

def similarityBound : Float :=
  0.7

def better (best : Option (Float × String)) (next : Float × String) : Option (Float × String) :=
  match best with
  | some kept => if kept.1 ≤ next.1 then some next else some kept
  | none => if similarityBound < next.1 then some next else none

def similarName? (name : String) : Option String :=
  let rated := Switch.names.map fun (other, _) => (Text.similarity name.toList other.toList, other)
  (rated.foldl better none).map (·.2)

def unknownName (progress : Progress) (name : String) : Stop :=
  let used := progress.used
  match similarName? name with
  | some similar =>
    let isUsed (switch : Switch) : Bool := used.any (·.switch? == some switch)
    let more := ((Switch.ofName? similar).filter (!isUsed ·)).toList.map (Part.switch · none)
    .unexpected ("--" ++ name) (some ("--" ++ similar)) false (used ++ more)
  | none => .unexpected ("--" ++ name) none true used

def nameAndValue (cs : List Char) : String × Option String :=
  let name := String.ofList (cs.takeWhile (· != '='))
  match cs.dropWhile (· != '=') with
  | [] => (name, none)
  | _ :: value => (name, some (String.ofList value))

def long (progress : Progress) (cs : List Char) : Except Stop Progress :=
  let (name, value) := nameAndValue cs
  match Switch.ofName? name with
  | none => .error (progress.unknownName name)
  | some switch =>
    match switch.takesValue, value with
    | true, some value => progress.give (.switch switch (some value))
    | true, none => progress.hold (.switch switch none)
    | false, none => progress.flag switch
    | false, some value =>
      .error (.valueUnexpected value switch (progress.settled ++ [.switch switch none]))

/-- Reads switches in short form. What follows the letter of one that takes a value is the value. -/
def short (progress : Progress) : List Char → Except Stop Progress
  | [] => .ok progress
  | letter :: rest =>
    match Switch.ofLetter? letter with
    | none => .error (.unexpected (String.ofList ['-', letter]) none true [])
    | some switch =>
      if switch.takesValue then
        match rest with
        | [] => progress.hold (.switch switch none)
        | '=' :: value => progress.give (.switch switch (some (String.ofList value)))
        | value => progress.give (.switch switch (some (String.ofList value)))
      else do (← progress.flag switch).short rest

def path (progress : Progress) (argument : String) : Except Stop Progress :=
  if progress.hasPath then .error (.unexpected argument none false [])
  else progress.hold (.path argument)

def paths (progress : Progress) : List String → Except Stop Progress
  | [] => progress.settle
  | argument :: more => do (← progress.path argument).paths more

def plain (progress : Progress) (argument : String) : Except Stop Progress :=
  match progress.held with
  | some (.switch switch none) => .ok { progress with held := some (.switch switch (some argument)) }
  | _ => progress.path argument

/-- Reads arguments one by one; behind a double dash, all are paths. -/
def read (progress : Progress) : List String → Except Stop Progress
  | [] => progress.settle
  | argument :: more =>
    match argument.toList with
    | ['-', '-'] => progress.paths more
    | '-' :: '-' :: rest => do (← progress.long rest).read more
    | '-' :: c :: rest => do (← progress.short (c :: rest)).read more
    | _ => do (← progress.plain argument).read more

end Progress

def conflict? (parts : List Part) : Option (Switch × Switch) :=
  match parts.filterMap Part.switch? |>.filter ([Switch.quiet, .verbose].contains ·) with
  | first :: second :: _ => some (first, second)
  | _ => none

namespace Request

def ofParts (parts : List Part) : Request :=
  let switches := parts.filterMap Part.switch?
  { componentsPath := parts.findSome? Part.path?
    prettify := switches.contains .prettify
    template := parts.findSome? fun | .switch .template value => value | _ => none
    quiet := switches.contains .quiet
    verbose := switches.contains .verbose }

def ofArguments (arguments : List String) : Except Stop Request := do
  let parts := (← Progress.start.read arguments).settled
  match conflict? parts with
  | some (first, second) =>
    .error (.conflict first second (parts.filter (·.switch? != some second)))
  | none => return ofParts parts

end Request

end SnapshotGen.CommandLine
