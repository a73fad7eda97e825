import SnapshotGen.Disk
import SnapshotGen.Ignore.Glob
import SnapshotGen.Text.Blank
import SnapshotGen.Text.Utf8

/-!
Rules that keep files out of a search. Files of rules stand in directories and speak of all that
lies below; rules of nearer directories go before those of farther ones, and rules of one kind
before those of the next. Rules that hold everywhere come last.
-/

namespace SnapshotGen.Ignore

inductive Verdict
  | ignored
  | kept
  deriving DecidableEq, Repr

structure Rule where
  glob : Glob
  verdict : Verdict
  isForDirectories : Bool

namespace Rule

/-- A glob with a separator in it speaks of the whole path, one without of any name in it. -/
def anchored (isAnchored : Bool) (cs : List Char) : List Char :=
  if isAnchored || cs.contains '/' || cs = ['*', '*'] then cs else "**/".toList ++ cs

/-- Two stars at the end stand for what is in a directory, not for the directory. -/
def insideOnly (cs : List Char) : List Char :=
  if "/**".toList.isSuffixOf cs then cs ++ "/*".toList else cs

def withoutSeparator (cs : List Char) : List Char :=
  let front := cs.dropLast
  if front.getLast? = some '\\' then front.dropLast else front

def ofPattern? (verdict : Verdict) (isAnchored : Bool) (cs : List Char) : Option Rule :=
  let isForDirectories := cs.getLast? = some '/'
  let cs := if isForDirectories then withoutSeparator cs else cs
  (Glob.ofText? (insideOnly (anchored isAnchored cs))).map fun glob =>
    ⟨glob, verdict, isForDirectories⟩

def ofUnmarked? (verdict : Verdict) : List Char → Option Rule
  | '/' :: cs => ofPattern? verdict true cs
  | cs => ofPattern? verdict false cs

/-- The rule of a line, if it has one: lines may be blank, comments or malformed. A blank at the end
counts only behind a backslash. -/
def ofLine? (line : List Char) : Option Rule :=
  let cs := if "\\ ".toList.isSuffixOf line then line else Text.trimEnd line
  match cs with
  | [] => none
  | '#' :: _ => none
  | '\\' :: '!' :: rest => ofPattern? .ignored false ('!' :: rest)
  | '\\' :: '#' :: rest => ofPattern? .ignored false ('#' :: rest)
  | '!' :: rest => ofUnmarked? .kept rest
  | cs => ofUnmarked? .ignored cs

end Rule

abbrev Rules := List Rule

namespace Rules

def ofContent (content : ByteArray) : Rules :=
  match Text.leadingLines content with
  | [] => []
  | first :: more => (first.dropWhile (· == '\ufeff') :: more).filterMap Rule.ofLine?

/-- What the last rule that speaks of a path says. -/
def verdict? (rules : Rules) (path : String) (isDirectory : Bool) : Option Verdict :=
  (rules.reverse.find? fun rule =>
    (isDirectory || !rule.isForDirectories) && rule.glob.matches path).map (·.verdict)

end Rules

def rulePlaces : List (List String) :=
  [[".snapgenignore"], [".ignore"], [".gitignore"], [".git", "info", "exclude"]]

def rulesOf (directory : FileTree) : List Rules :=
  rulePlaces.map fun place =>
    match directory.find place with
    | .ok (.file content) => Rules.ofContent content
    | _ => []

/-- The rules of a directory on the way, and the names that lead from it to the present place. -/
structure Scope where
  rules : List Rules
  below : List String

namespace Scope

def here (directory : FileTree) : Scope :=
  ⟨rulesOf directory, []⟩

def into (name : String) (scope : Scope) : Scope :=
  { scope with below := scope.below ++ [name] }

def verdict? (scope : Scope) (kind : Nat) (isDirectory : Bool) : Option Verdict :=
  ((scope.rules[kind]?).getD []).verdict? ("/".intercalate scope.below) isDirectory

end Scope

/-- What is said of the place that all scopes lead to; the nearest scope comes first. -/
def verdict? (scopes : List Scope) (isDirectory : Bool) : Option Verdict :=
  (List.range rulePlaces.length).findSome? fun kind =>
    scopes.findSome? (·.verdict? kind isDirectory)

def scopesTo (tree : FileTree) (scopes : List Scope) : List String → List Scope
  | [] => scopes
  | name :: path =>
    let inner := (tree.find [name]).toOption.getD .empty
    scopesTo inner ((Scope.here tree :: scopes).map (·.into name)) path

/-- A place as rules that hold everywhere see it: from the working directory, where it lies below. -/
def seenFrom (directory place : List String) : String :=
  match directory.isPrefixOf? place with
  | some below => "/".intercalate below
  | none => "/" ++ "/".intercalate place

def isHidden (place : List String) : Bool :=
  place.getLast?.any fun name => name.toList.head? = some '.'

/-- Whether what stands at a place is kept out. Where no rule speaks of it, hidden names are. -/
def excludes (everywhere : Rules) (disk : Disk) (place : List String) : Bool :=
  let isDirectory := (disk.tree.find place).toOption.any (·.isDirectory)
  let nearby := verdict? (scopesTo disk.tree [] place) isDirectory
  match nearby.or (everywhere.verdict? (seenFrom disk.workingDirectory place) isDirectory) with
  | some .ignored => true
  | some .kept => false
  | none => isHidden place

end SnapshotGen.Ignore
